import Verdict.Expr.ShapeCache
import Mathlib.Data.List.Basic
import Mathlib.Data.List.Induction
import Mathlib.Logic.Basic

namespace Verdict

variable {σ : Type} {h h' : Heap} {limit limit' : Nat}

theorem CompareOp.eq_of_idxOf_eq {op op' : CompareOp} (hop : all.idxOf op = all.idxOf op') : op = op' := by
  have hmem : op ∈ all := by cases op <;> decide
  exact (List.idxOf_inj hmem).1 hop

theorem Mark.ofOption_append_inj {a b : Option String} {rest rest' : List Mark}
    (hmarks : ofOption a ++ rest = ofOption b ++ rest') : a = b ∧ rest = rest' := by
  cases a with
  | none =>
    cases b with
    | none => exact ⟨rfl, (List.cons.inj hmarks).2⟩
    | some t => simp [ofOption] at hmarks
  | some s =>
    cases b with
    | none => simp [ofOption] at hmarks
    | some t => simpa [ofOption] using hmarks

theorem Mark.texts_append_inj {a b : List String} {rest rest' : List Mark} (hlength : a.length = b.length)
    (hmarks : a.map .text ++ rest = b.map .text ++ rest') : a = b ∧ rest = rest' := by
  obtain ⟨htexts, hrest⟩ := List.append_inj hmarks (by simpa using hlength)
  exact ⟨(List.map_inj_right fun _ _ htext => Mark.text.inj htext).1 htexts, hrest⟩

namespace Expr

-- All that a shape has of an expression, and what decides over parentheses around it.
structure SameShape (h : Heap) (limit : Nat) (h' : Heap) (limit' : Nat) (e e' : Expr σ) : Prop where
  level : e.level = e'.level
  text : e.text h limit = e'.text h' limit'
  entries : Shape.entries h limit e = Shape.entries h' limit' e'

section

variable {e e' l l' r r' : Expr σ}

theorem SameShape.placed_eq (he : SameShape h limit h' limit' e e') (rank : Nat) :
    e.placed rank (e.text h limit) = e'.placed rank (e'.text h' limit') := by
  rw [placed, placed, he.level, he.text]

theorem SameShape.binaryText_eq (hl : SameShape h limit h' limit' l l')
    (hr : SameShape h limit h' limit' r r') (level : Level) (symbol : String) :
    binaryText level symbol l r (l.text h limit) (r.text h limit) =
      binaryText level symbol l' r' (l'.text h' limit') (r'.text h' limit') := by
  rw [binaryText, binaryText, hl.placed_eq, hr.placed_eq]

theorem SameShape.callText_eq (he : SameShape h limit h' limit' e e') (name : String)
    {arguments arguments' : List String} (harguments : arguments = arguments') :
    callText e (e.text h limit) name arguments = callText e' (e'.text h' limit') name arguments' := by
  rw [callText, callText, he.placed_eq, harguments]

-- The entry of a node stands above those of its operands.
theorem above_eq {text text' : String} {below below' : List (String × Nat)} (htext : text = text')
    (hbelow : below = below') : Shape.above text below = Shape.above text' below' := by
  rw [htext, hbelow]

theorem SameShape.entries_append (hl : SameShape h limit h' limit' l l')
    (hr : SameShape h limit h' limit' r r') :
    Shape.entries h limit l ++ Shape.entries h limit r =
      Shape.entries h' limit' l' ++ Shape.entries h' limit' r' := by
  rw [hl.entries, hr.entries]

theorem SameShape.compare (hl : SameShape h limit h' limit' l l') (hr : SameShape h limit h' limit' r r')
    (op : CompareOp) : SameShape h limit h' limit' (.compare op l r) (.compare op l' r') := by
  have htext : (Expr.compare op l r).text h limit = (Expr.compare op l' r').text h' limit' :=
    hl.binaryText_eq hr .comparison op.symbol
  exact ⟨rfl, htext, above_eq htext (hl.entries_append hr)⟩

theorem SameShape.logical (hl : SameShape h limit h' limit' l l') (hr : SameShape h limit h' limit' r r')
    (op : LogicalOp) : SameShape h limit h' limit' (.logical op l r) (.logical op l' r') := by
  have htext : (Expr.logical op l r).text h limit = (Expr.logical op l' r').text h' limit' :=
    hl.binaryText_eq hr (LogicalOp.level op) op.symbol
  exact ⟨rfl, htext, above_eq htext (hl.entries_append hr)⟩

theorem SameShape.not (he : SameShape h limit h' limit' e e') :
    SameShape h limit h' limit' (.not e) (.not e') := by
  have htext : (Expr.not e).text h limit = (Expr.not e').text h' limit' :=
    congrArg ("!" ++ ·) (he.placed_eq Level.unary.rank)
  exact ⟨rfl, htext, above_eq htext he.entries⟩

theorem sameShape_literal {v v' : Value} (d d' : Option DeclaredType)
    (hshown : v.display h limit = v'.display h' limit') :
    SameShape h limit h' limit' (.literal v d : Expr σ) (.literal v' d') :=
  ⟨rfl, hshown, above_eq hshown rfl⟩

theorem SameShape.contains (hl : SameShape h limit h' limit' l l')
    (hr : SameShape h limit h' limit' r r') :
    SameShape h limit h' limit' (.contains l r) (.contains l' r') := by
  have htext : (Expr.contains l r).text h limit = (Expr.contains l' r').text h' limit' :=
    hl.callText_eq "contains" (congrArg (fun text => [text]) hr.text)
  exact ⟨rfl, htext, above_eq htext (hl.entries_append hr)⟩

theorem SameShape.any (he : SameShape h limit h' limit' e e') {p p' : Option Predicate}
    (hp : p.map (·.text) = p'.map (·.text)) : SameShape h limit h' limit' (.any e p) (.any e' p') := by
  have htext : (Expr.any e p).text h limit = (Expr.any e' p').text h' limit' :=
    he.callText_eq "any" (congrArg Option.toList hp)
  exact ⟨rfl, htext, above_eq htext he.entries⟩

theorem SameShape.all (he : SameShape h limit h' limit' e e') {p p' : Predicate} (hp : p.text = p'.text) :
    SameShape h limit h' limit' (.all e p) (.all e' p') := by
  have htext : (Expr.all e p).text h limit = (Expr.all e' p').text h' limit' :=
    he.callText_eq "all" (congrArg (fun text => [text]) hp)
  exact ⟨rfl, htext, above_eq htext he.entries⟩

theorem SameShape.sequenceEqual (hl : SameShape h limit h' limit' l l')
    (hr : SameShape h limit h' limit' r r') {c c' : Option Comparer}
    (hc : c.map (·.text) = c'.map (·.text)) :
    SameShape h limit h' limit' (.sequenceEqual l r c) (.sequenceEqual l' r' c') := by
  have htext :
      (Expr.sequenceEqual l r c).text h limit = (Expr.sequenceEqual l' r' c').text h' limit' := by
    cases c with
    | none =>
      cases c' with
      | none => exact hl.callText_eq "sequence_equal" (congrArg (fun text => [text]) hr.text)
      | some c' => cases hc
    | some c =>
      cases c' with
      | none => cases hc
      | some c' =>
        have hname : c.text = c'.text := Option.some.inj hc
        exact hl.callText_eq "sequence_equal_by" (by rw [hr.text, hname])
  exact ⟨rfl, htext, above_eq htext (hl.entries_append hr)⟩

end

-- The marks of an expression can be told from what follows them, and they determine its shape. By induction on the
-- expression: the marks of an operand are followed by those of the next one.
theorem sameShape_of_marks {e e' : Expr σ} {rest rest' : List Mark}
    (hmarks : e.marks h limit ++ rest = e'.marks h' limit' ++ rest') :
    SameShape h limit h' limit' e e' ∧ rest = rest' := by
  induction e generalizing e' rest rest' with
  | compare op l r ihl ihr =>
    cases e' with
    | compare op' l' r' =>
      simp only [marks, List.cons_append, List.append_assoc, List.cons.injEq, Mark.choice.injEq,
        true_and] at hmarks
      obtain ⟨hop, hmarks⟩ := hmarks
      obtain ⟨hl, hmarks⟩ := ihl hmarks
      obtain ⟨hr, hrest⟩ := ihr hmarks
      obtain rfl := CompareOp.eq_of_idxOf_eq hop
      exact ⟨hl.compare hr op, hrest⟩
    | logical op' => cases op' <;> simp [marks] at hmarks
    | _ => simp [marks] at hmarks
  | logical op l r ihl ihr =>
    cases e' with
    | logical op' l' r' =>
      obtain rfl : op = op' := by cases op <;> cases op' <;> simp [marks] at hmarks ⊢
      have hoperands : l.marks h limit ++ (r.marks h limit ++ rest) =
          l'.marks h' limit' ++ (r'.marks h' limit' ++ rest') := by
        cases op <;> simpa [marks] using hmarks
      obtain ⟨hl, hsecond⟩ := ihl hoperands
      obtain ⟨hr, hrest⟩ := ihr hsecond
      exact ⟨hl.logical hr op, hrest⟩
    | _ => cases op <;> simp [marks] at hmarks
  | not e ih =>
    cases e' with
    | not e' =>
      obtain ⟨he, hrest⟩ := ih (List.cons.inj hmarks).2
      exact ⟨he.not, hrest⟩
    | logical op' => cases op' <;> simp [marks] at hmarks
    | _ => simp [marks] at hmarks
  | member path l =>
    cases e' with
    | member path' l' =>
      simp only [marks, List.cons_append, List.cons.injEq, Mark.length.injEq, true_and] at hmarks
      obtain ⟨rfl, hrest⟩ := Mark.texts_append_inj hmarks.1 hmarks.2
      exact ⟨⟨rfl, rfl, rfl⟩, hrest⟩
    | logical op' => cases op' <;> simp [marks] at hmarks
    | _ => simp [marks] at hmarks
  | leaf text l =>
    cases e' with
    | leaf text' l' =>
      simp only [marks, List.cons_append, List.nil_append, List.cons.injEq, Mark.text.injEq,
        true_and] at hmarks
      obtain ⟨rfl, hrest⟩ := hmarks
      exact ⟨⟨rfl, rfl, rfl⟩, hrest⟩
    | logical op' => cases op' <;> simp [marks] at hmarks
    | _ => simp [marks] at hmarks
  | literal v d =>
    cases e' with
    | literal v' d' =>
      simp only [marks, List.cons_append, List.nil_append, List.cons.injEq, Mark.text.injEq,
        true_and] at hmarks
      obtain ⟨hshown, hrest⟩ := hmarks
      exact ⟨sameShape_literal d d' hshown, hrest⟩
    | logical op' => cases op' <;> simp [marks] at hmarks
    | _ => simp [marks] at hmarks
  -- Calls are told apart behind their receivers.
  | contains e item ihe ihi =>
    cases e' with
    | contains e' item' =>
      simp only [marks, List.cons_append, List.append_assoc, List.cons.injEq, true_and] at hmarks
      obtain ⟨he, hmarks⟩ := ihe hmarks
      obtain ⟨hi, hrest⟩ := ihi (List.cons.inj hmarks).2
      exact ⟨he.contains hi, hrest⟩
    | any e' | all e' | sequenceEqual e' =>
      simp only [marks, List.cons_append, List.append_assoc, List.cons.injEq, true_and] at hmarks
      obtain ⟨-, hmarks⟩ := ihe hmarks
      simp at hmarks
    | logical op' => cases op' <;> simp [marks] at hmarks
    | _ => simp [marks] at hmarks
  | any e p ih =>
    cases e' with
    | any e' p' =>
      simp only [marks, List.cons_append, List.append_assoc, List.cons.injEq, true_and] at hmarks
      obtain ⟨he, hmarks⟩ := ih hmarks
      obtain ⟨hp, hrest⟩ := Mark.ofOption_append_inj (List.cons.inj hmarks).2
      exact ⟨he.any hp, hrest⟩
    | contains e' | all e' | sequenceEqual e' =>
      simp only [marks, List.cons_append, List.append_assoc, List.cons.injEq, true_and] at hmarks
      obtain ⟨-, hmarks⟩ := ih hmarks
      simp at hmarks
    | logical op' => cases op' <;> simp [marks] at hmarks
    | _ => simp [marks] at hmarks
  | all e p ih =>
    cases e' with
    | all e' p' =>
      simp only [marks, List.cons_append, List.append_assoc, List.cons.injEq, true_and] at hmarks
      obtain ⟨he, hmarks⟩ := ih hmarks
      simp only [List.cons.injEq, Mark.text.injEq, true_and, List.nil_append] at hmarks
      exact ⟨he.all hmarks.1, hmarks.2⟩
    | contains e' | any e' | sequenceEqual e' =>
      simp only [marks, List.cons_append, List.append_assoc, List.cons.injEq, true_and] at hmarks
      obtain ⟨-, hmarks⟩ := ih hmarks
      simp at hmarks
    | logical op' => cases op' <;> simp [marks] at hmarks
    | _ => simp [marks] at hmarks
  | sequenceEqual e other c ihe iho =>
    cases e' with
    | sequenceEqual e' other' c' =>
      simp only [marks, List.cons_append, List.append_assoc, List.cons.injEq, true_and] at hmarks
      obtain ⟨he, hmarks⟩ := ihe hmarks
      obtain ⟨ho, hmarks⟩ := iho (List.cons.inj hmarks).2
      obtain ⟨hc, hrest⟩ := Mark.ofOption_append_inj hmarks
      exact ⟨he.sequenceEqual ho hc, hrest⟩
    | contains e' | any e' | all e' =>
      simp only [marks, List.cons_append, List.append_assoc, List.cons.injEq, true_and] at hmarks
      obtain ⟨-, hmarks⟩ := ihe hmarks
      simp at hmarks
    | logical op' => cases op' <;> simp [marks] at hmarks
    | _ => simp [marks] at hmarks

theorem shape_eq_of_marks_eq {e e' : Expr σ} (hmarks : e.marks h limit = e'.marks h' limit') :
    Shape.of h limit e = Shape.of h' limit' e' := by
  have hall : e.marks h limit ++ [] = e'.marks h' limit' ++ [] := congrArg (· ++ []) hmarks
  have hsame := (sameShape_of_marks hall).1
  rw [Shape.of, Shape.of, hsame.entries]

end Expr

theorem Shape.text_of_root (h : Heap) (limit : Nat) (e : Expr σ) :
    (Shape.of h limit e).text 0 = e.text h limit := by
  cases e <;> rfl

namespace ShapeCache

variable {cache : ShapeCache} {e : Expr σ} {past : List (Heap × Expr σ)} {digest : List Mark → UInt64}

theorem digest_compile (cache : ShapeCache) (h : Heap) (limit : Nat) (e : Expr σ) :
    (cache.compile h limit e).2.digest = cache.digest := by
  unfold compile
  dsimp only
  split <;> rfl

-- Every entry has the shape of one of these expressions, under the fingerprint of that one.
def StemsFrom (cache : ShapeCache) (limit : Nat) (past : List (Heap × Expr σ)) : Prop :=
  ∀ entry ∈ cache.entries, ∃ earlier ∈ past,
    cache.digest (earlier.2.marks earlier.1 limit) = entry.1 ∧
      entry.2 = Shape.of earlier.1 limit earlier.2

theorem StemsFrom.compile (hcache : cache.StemsFrom limit past) (h : Heap) (e : Expr σ) :
    (cache.compile h limit e).2.StemsFrom limit (past ++ [(h, e)]) := by
  have hold : ∀ entry ∈ cache.entries, ∃ earlier ∈ past ++ [(h, e)],
      cache.digest (earlier.2.marks earlier.1 limit) = entry.1 ∧
        entry.2 = Shape.of earlier.1 limit earlier.2 := by
    intro entry hentry
    obtain ⟨earlier, hearlier, hstems⟩ := hcache entry hentry
    exact ⟨earlier, List.mem_append_left _ hearlier, hstems⟩
  intro entry hentry
  rw [digest_compile]
  unfold ShapeCache.compile at hentry
  dsimp only at hentry
  split at hentry
  · exact hold entry hentry
  · rcases List.mem_cons.1 hentry with rfl | hentry
    · exact ⟨(h, e), List.mem_append_right _ (List.mem_singleton_self _), rfl, rfl⟩
    · exact hold entry hentry

theorem after_append_singleton (past : List (Heap × Expr σ)) (earlier : Heap × Expr σ) :
    after digest limit (past ++ [earlier]) =
      ((after digest limit past).compile earlier.1 limit earlier.2).2 := by
  rw [after, List.foldl_append, ← after]
  rfl

theorem digest_after (digest : List Mark → UInt64) (limit : Nat) (past : List (Heap × Expr σ)) :
    (after digest limit past).digest = digest := by
  induction past using List.reverseRecOn with
  | nil => rfl
  | append_singleton past earlier ih => rw [after_append_singleton, digest_compile, ih]

theorem stemsFrom_after (digest : List Mark → UInt64) (limit : Nat) (past : List (Heap × Expr σ)) :
    (after digest limit past).StemsFrom limit past := by
  induction past using List.reverseRecOn with
  | nil =>
    intro entry hentry
    cases hentry
  | append_singleton past earlier ih =>
    rw [after_append_singleton]
    exact ih.compile earlier.1 earlier.2

-- No earlier expression is taken for this one: if it has the same fingerprint and the same text at its root, then it
-- was fed to the hasher as this one is.
def Distinguishes (digest : List Mark → UInt64) (limit : Nat) (past : List (Heap × Expr σ)) (h : Heap)
    (e : Expr σ) : Prop :=
  ∀ earlier ∈ past, digest (earlier.2.marks earlier.1 limit) = digest (e.marks h limit) →
    earlier.2.text earlier.1 limit = e.text h limit →
      earlier.2.marks earlier.1 limit = e.marks h limit

theorem compile_after (hdistinct : Distinguishes digest limit past h e) :
    ((after digest limit past).compile h limit e).1 = Shape.of h limit e := by
  unfold compile
  dsimp only
  rw [digest_after]
  split
  · rename_i shape hfound
    obtain ⟨hlookup, htext⟩ := Option.filter_eq_some_iff.1 hfound
    obtain ⟨front, back, hentries, -⟩ := List.lookup_eq_some_iff.1 hlookup
    obtain ⟨earlier, hearlier, hkey, hshape⟩ := stemsFrom_after digest limit past
      (digest (e.marks h limit), shape) (by rw [hentries]; exact List.mem_append_right _ List.mem_cons_self)
    change shape = Shape.of earlier.1 limit earlier.2 at hshape
    rw [digest_after] at hkey
    rw [hshape, Shape.text_of_root, beq_iff_eq] at htext
    exact hshape.trans (Expr.shape_eq_of_marks_eq (hdistinct earlier hearlier hkey htext))
  · rfl

-- Otherwise the earlier one's shape is reused, whatever stands below its root.
theorem compile_of_mistaken {e' : Expr σ} (hkey : digest (e'.marks h' limit) = digest (e.marks h limit))
    (htext : e'.text h' limit = e.text h limit) :
    ((after digest limit [(h', e')]).compile h limit e).1 = Shape.of h' limit e' := by
  have hafter : after digest limit [(h', e')] =
      ⟨digest, [(digest (e.marks h limit), Shape.of h' limit e')]⟩ := by
    rw [← hkey]
    rfl
  have hfound : (some (Shape.of h' limit e')).filter (·.text 0 == e.text h limit) =
      some (Shape.of h' limit e') :=
    Option.filter_eq_some_iff.2 ⟨rfl, by rw [Shape.text_of_root, htext, beq_self_eq_true]⟩
  rw [hafter, compile]
  simp only [List.lookup_cons_self, hfound]

end ShapeCache

end Verdict
