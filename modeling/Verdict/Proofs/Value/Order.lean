import Verdict.CompareOp
import Verdict.Proofs.Value.Bisimulation

namespace Verdict

variable {h : Heap} {a b x y : Value} {xs ys : List Value} {m n : Number} {o : Ordering}

theorem Binary64.compare_swap (x y : Binary64) : y.compare x = (x.compare y).map Ordering.swap := by
  unfold Binary64.compare
  cases x.rank with
  | none => cases y.rank <;> rfl
  | some p =>
    cases y.rank with
    | none => rfl
    | some q =>
      rw [Option.map_some, Ordering.swap_then, ← Std.OrientedOrd.eq_swap, ← Std.OrientedOrd.eq_swap]

theorem Number.compare_swap (m n : Number) : n.compare m = (m.compare n).map Ordering.swap := by
  cases m with
  | whole m =>
    cases n with
    | whole n => exact congrArg some Std.OrientedOrd.eq_swap
    | real y => exact Binary64.compare_swap _ y
  | real x => cases n <;> exact Binary64.compare_swap x _

theorem Moment.compare_swap (m n : Moment) : n.compare m = (m.compare n).swap := by
  rw [Moment.compare, Moment.compare, Ordering.swap_then, ← Std.OrientedOrd.eq_swap,
    ← Std.OrientedOrd.eq_swap]

-- Two values of kinds that are ordered against each other; a NaN is one of them, though it has no order.
inductive Comparable : Value → Value → Prop where
  | number {a b : Value} {m n : Number} (ha : a.number? = some m) (hb : b.number? = some n) :
    Comparable a b
  | bool {a b : Bool} : Comparable (.bool a) (.bool b)
  | char {a b : Char} : Comparable (.char a) (.char b)
  | text {a b : String} : Comparable (.text a) (.text b)
  | moment {a b : Moment} : Comparable (.moment a) (.moment b)
  | seq {xs ys : List Value} : Comparable (.seq xs) (.seq ys)

theorem Comparable.symm (hab : Comparable a b) : Comparable b a := by
  cases hab with
  | number ha hb => exact .number hb ha
  | bool => exact .bool
  | char => exact .char
  | text => exact .text
  | moment => exact .moment
  | seq => exact .seq

theorem not_comparable (hseq : ∀ xs ys, a = .seq xs → b = .seq ys → False)
    (hbool : ∀ x y, a = .bool x → b = .bool y → False)
    (hchar : ∀ x y, a = .char x → b = .char y → False)
    (htext : ∀ x y, a = .text x → b = .text y → False)
    (hmoment : ∀ x y, a = .moment x → b = .moment y → False)
    (hnumber : ∀ m n, a.number? = some m → b.number? = some n → False) : ¬Comparable a b := by
  intro hab
  cases hab with
  | number ha hb => exact hnumber _ _ ha hb
  | bool => exact hbool _ _ rfl rfl
  | char => exact hchar _ _ rfl rfl
  | text => exact htext _ _ rfl rfl
  | moment => exact hmoment _ _ rfl rfl
  | seq => exact hseq _ _ rfl rfl

theorem order_of_not_comparable (hab : ¬Comparable a b) : a.order h b = .error (a.incomparable h b) := by
  rw [Value.order.eq_def]
  split
  · exact absurd .seq hab
  · exact absurd .bool hab
  · exact absurd .char hab
  · exact absurd .text hab
  · exact absurd .moment hab
  · split
    · rename_i ha hb
      exact absurd (.number ha hb) hab
    · rfl

theorem order_of_number (ha : a.number? = some m) (hb : b.number? = some n) :
    a.order h b = match m.compare n with
      | some o => .ok o
      | none => .error (a.incomparable h b) := by
  cases a <;> cases ha <;> cases b <;> cases hb <;> rfl

theorem itemsOrder_cons_of_eq (hxy : x.order h y = .ok .eq) :
    itemsOrder h (x :: xs) (y :: ys) = itemsOrder h xs ys := by
  rw [itemsOrder, hxy]

-- A pair that is not equal hides what comes after it.
theorem itemsOrder_cons_of_ne (hxy : x.order h y ≠ .ok .eq) :
    itemsOrder h (x :: xs) (y :: ys) = x.order h y := by
  rw [itemsOrder]
  split
  · rename_i heq
    exact absurd heq hxy
  · rfl

def Incomparable.swap (e : Incomparable) : Incomparable := ⟨e.right, e.left⟩

-- The answer of a comparison as the other side sees it.
def reversed : Except Incomparable Ordering → Except Incomparable Ordering
  | .ok o => .ok o.swap
  | .error e => .error e.swap

theorem reversed_eq_ok_eq_iff {answer : Except Incomparable Ordering} :
    reversed answer = .ok .eq ↔ answer = .ok .eq := by
  cases answer with
  | ok o => cases o <;> simp [reversed]
  | error e => simp [reversed]

theorem order_reversed (h : Heap) (a b : Value) : b.order h a = reversed (a.order h b) := by
  induction a, b using Value.order.induct h
    (motive_2 := fun xs ys => itemsOrder h ys xs = reversed (itemsOrder h xs ys)) with
  | case1 xs ys ih => rw [Value.order, Value.order, ih]
  | case2 a b => exact congrArg Except.ok Std.OrientedOrd.eq_swap
  | case3 a b => exact congrArg Except.ok Std.OrientedOrd.eq_swap
  | case4 a b => exact congrArg Except.ok Std.OrientedOrd.eq_swap
  | case5 m n => exact congrArg Except.ok (m.compare_swap n)
  | case6 a b _ _ _ _ _ m n hb ha o hmn | case7 a b _ _ _ _ _ m n hb ha hmn =>
    rw [order_of_number ha hb, order_of_number hb ha, m.compare_swap, hmn]
    rfl
  | case8 a b hseq hbool hchar htext hmoment hnumber =>
    have hab := not_comparable hseq hbool hchar htext hmoment hnumber
    rw [order_of_not_comparable hab, order_of_not_comparable fun hba => hab hba.symm]
    rfl
  | case9 | case10 | case11 => rfl
  | case12 x xs y ys hxy ihx ihxs =>
    have hyx : y.order h x = .ok .eq := by rw [ihx, hxy]; rfl
    rw [itemsOrder_cons_of_eq hxy, itemsOrder_cons_of_eq hyx, ihxs]
  | case13 x xs y ys hxy ihx =>
    have hyx : y.order h x ≠ .ok .eq := by
      rw [ihx]
      exact fun hrev => hxy (reversed_eq_ok_eq_iff.1 hrev)
    rw [itemsOrder_cons_of_ne hxy, itemsOrder_cons_of_ne hyx, ihx]

theorem equals_iff_agrees (hseq : ∀ xs ys, a = .seq xs → b = .seq ys → False)
    (hobject : ∀ r s, a = .object r → b = .object s → False) :
    a.equals h b = true ↔ a.agrees b = true := by
  rw [Value.equals, Heap.allEqual, Heap.allEqual, Bool.and_true]
  · exact hseq
  · exact hobject

theorem equals_iff_of_number (ha : a.number? = some m) (hb : b.number? = some n) :
    a.equals h b = true ↔ m.compare n = some .eq := by
  rw [equals_iff_agrees, agrees_of_number ha hb]
  · exact beq_iff_eq
  · rintro xs ys rfl -
    cases ha
  · rintro r s rfl -
    cases ha

-- Where two values have an order, they are equal when neither comes first.
theorem equals_iff_of_order (ho : a.order h b = .ok o) : a.equals h b = true ↔ o = .eq := by
  induction a, b using Value.order.induct h
    (motive_2 := fun xs ys => ∀ o, itemsOrder h xs ys = .ok o →
      (List.Forall₂ (fun x y => x.equals h y = true) xs ys ↔ o = .eq)) generalizing o with
  | case1 xs ys ih =>
    rw [Value.order] at ho
    rw [equals_seq_iff]
    exact ih o ho
  | case2 a b | case4 a b =>
    cases ho
    rw [equals_iff_agrees (by simp) (by simp)]
    exact beq_iff_eq.trans Std.LawfulEqOrd.compare_eq_iff_eq.symm
  | case3 a b =>
    cases ho
    rw [equals_iff_agrees (by simp) (by simp)]
    exact beq_iff_eq.trans (Char.toNat_inj.symm.trans Std.LawfulEqOrd.compare_eq_iff_eq.symm)
  | case5 m n =>
    cases ho
    rw [equals_iff_agrees (by simp) (by simp)]
    exact beq_iff_eq
  | case6 a b _ _ _ _ _ m n hb ha o' hmn =>
    rw [order_of_number ha hb, hmn] at ho
    cases ho
    rw [equals_iff_of_number ha hb, hmn, Option.some_inj]
  | case7 a b _ _ _ _ _ m n hb ha hmn =>
    rw [order_of_number ha hb, hmn] at ho
    cases ho
  | case8 a b hseq hbool hchar htext hmoment hnumber =>
    rw [order_of_not_comparable (not_comparable hseq hbool hchar htext hmoment hnumber)] at ho
    cases ho
  | case9 o ho =>
    cases ho
    exact iff_of_true .nil rfl
  | case10 y ys o ho | case11 x xs o ho =>
    cases ho
    exact iff_of_false (fun hitems => nomatch hitems) (fun heq => nomatch heq)
  | case12 x xs y ys hxy ihx ihxs o ho =>
    rw [itemsOrder_cons_of_eq hxy] at ho
    rw [List.forall₂_cons, ihx hxy, ihxs o ho]
    exact and_iff_right rfl
  | case13 x xs y ys hxy ihx o ho =>
    rw [itemsOrder_cons_of_ne hxy] at ho
    have hne : o ≠ .eq := by
      rintro rfl
      exact hxy ho
    exact iff_of_false (fun hitems => hne ((ihx ho).1 (List.forall₂_cons.1 hitems).1)) hne

namespace CompareOp

-- The operators that ask for an order.
def orderings : List CompareOp := [.less, .lessOrEqual, .greater, .greaterOrEqual]

theorem apply_of_order (op : CompareOp) (ho : a.order h b = .ok o) :
    op.apply h a b = op.accepts o := by
  have hequal : a.equals h b = (o == .eq) := by
    rw [Bool.eq_iff_iff, equals_iff_of_order ho, beq_iff_eq]
  cases op with
  | equal => exact hequal
  | notEqual => exact congrArg (!·) hequal
  | less | lessOrEqual | greater | greaterOrEqual => simp only [apply, ho]

theorem apply_of_error {op : CompareOp} (hop : op ∈ orderings) {e : Incomparable}
    (he : a.order h b = .error e) : op.apply h a b = false := by
  simp only [orderings, List.mem_cons, List.not_mem_nil, or_false] at hop
  rcases hop with rfl | rfl | rfl | rfl <;> simp only [apply, he]

theorem existsUnique_accepts (o : Ordering) :
    ∃! op, op ∈ [less, equal, greater] ∧ op.accepts o = true := by
  have hunique (p : CompareOp) (hp : ∀ op ∈ [less, equal, greater], op.accepts o = true → op = p) :
      ∀ op, op ∈ [less, equal, greater] ∧ op.accepts o = true → op = p :=
    fun op hop => hp op hop.1 hop.2
  cases o with
  | lt => exact ⟨less, ⟨by decide, rfl⟩, hunique _ (by decide)⟩
  | eq => exact ⟨equal, ⟨by decide, rfl⟩, hunique _ (by decide)⟩
  | gt => exact ⟨greater, ⟨by decide, rfl⟩, hunique _ (by decide)⟩

end CompareOp

-- An order turns round with its values, and a failure names them the other way round. With an order the
-- operators agree with equality and with each other, and without one no ordering operator holds.
theorem comparisons_coherent (h : Heap) (a b : Value) :
    b.order h a = reversed (a.order h b) ∧
    (∀ o, a.order h b = .ok o →
      (a.equals h b = true ↔ o = .eq) ∧
      (∃! op, op ∈ [CompareOp.less, .equal, .greater] ∧ op.apply h a b = true) ∧
      CompareOp.lessOrEqual.apply h a b =
        (CompareOp.less.apply h a b || CompareOp.equal.apply h a b) ∧
      CompareOp.greaterOrEqual.apply h a b =
        (CompareOp.greater.apply h a b || CompareOp.equal.apply h a b) ∧
      CompareOp.less.apply h a b = CompareOp.greater.apply h b a) ∧
    ∀ e, a.order h b = .error e →
      ∀ op ∈ CompareOp.orderings, op.apply h a b = false ∧ op.apply h b a = false := by
  have hreversed := order_reversed h a b
  refine ⟨hreversed, fun o ho => ?_, fun e he op hop => ?_⟩
  · rw [ho] at hreversed
    have hforth (op : CompareOp) := CompareOp.apply_of_order op ho
    have hback (op : CompareOp) := CompareOp.apply_of_order op hreversed
    simp only [hforth, hback]
    refine ⟨equals_iff_of_order ho, CompareOp.existsUnique_accepts o, ?_⟩
    cases o <;> exact ⟨rfl, rfl, rfl⟩
  · rw [he] at hreversed
    exact ⟨CompareOp.apply_of_error hop he, CompareOp.apply_of_error hop hreversed⟩

-- The first pair decides before two values that have no order are looked at.
example : (Value.seq [.int 1, .null]).order .empty (.seq [.int 2, .text "x"]) = .ok .lt := rfl

end Verdict
