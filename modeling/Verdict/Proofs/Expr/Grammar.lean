import Verdict.Expr.Basic

namespace Verdict.Grammar

-- The places of a text, from those that take any tree to those that take only what holds together by itself.
namespace Rank

def or : Nat := 1

def and : Nat := 2

def comparison : Nat := 3

def unary : Nat := 4

def atom : Nat := 5

end Rank

inductive Operator where
  | compare (op : CompareOp)
  | logical (op : LogicalOp)
  deriving DecidableEq, Repr

namespace Operator

def rank : Operator → Nat
  | .logical .or => Rank.or
  | .logical .and => Rank.and
  | .compare _ => Rank.comparison

def symbol : Operator → String
  | .compare op => op.symbol
  | .logical op => op.symbol

-- Binary operators bind weaker than `!`.
theorem rank_bounds (op : Operator) : 1 ≤ op.rank ∧ op.rank < Rank.unary := by
  cases op with
  | compare op => exact ⟨Nat.le_add_left 1 2, Nat.le_refl 4⟩
  | logical op => cases op <;> exact ⟨by decide, by decide⟩

end Operator

-- The calls on a sequence.
inductive Method where
  | contains
  | any
  | all
  | sequenceEqual
  | sequenceEqualBy
  deriving DecidableEq, Repr

namespace Method

def word : Method → List Char
  | .contains => "contains".toList
  | .any => "any".toList
  | .all => "all".toList
  | .sequenceEqual => "sequence_equal".toList
  | .sequenceEqualBy => "sequence_equal_by".toList

def every : List Method := [.contains, .any, .all, .sequenceEqual, .sequenceEqualBy]

def ofWord? (w : List Char) : Option Method := every.find? (·.word == w)

theorem ofWord?_word (m : Method) : ofWord? m.word = some m := by cases m <;> decide

theorem word_of_ofWord? {w : List Char} {m : Method} (h : ofWord? w = some m) : m.word = w := by
  have hword := List.find?_some h
  exact beq_iff_eq.1 hword

end Method

-- The structure of an expression. Members, leaves and literals are told apart by their text only.
inductive Outline where
  | name (text : List Char)
  | binary (op : Operator) (left right : Outline)
  | not (operand : Outline)
  | contains (receiver item : Outline)
  | any (receiver : Outline) (predicate : Option (List Char))
  | all (receiver : Outline) (predicate : List Char)
  | sequenceEqual (receiver other : Outline) (comparer : Option (List Char))
  deriving DecidableEq, Repr

inductive Token where
  | word (text : List Char)
  | dot
  | opening
  | closing
  | comma
  | bang
  | operator (op : Operator)
  deriving DecidableEq, Repr

-- What stands between a receiver and the arguments of a call on it.
def callTokens (m : Method) : List Token := [.dot, .word m.word, .opening]

-- The tokens read as the tree in a place that asks for at least the given rank.
inductive Reads : Nat → List Token → Outline → Prop where
  | name (w : List Char) : Reads Rank.atom [.word w] (.name w)
  | dot {ts : List Token} {p : List Char} (h : Reads Rank.atom ts (.name p)) (w : List Char) :
    Reads Rank.atom (ts ++ [.dot, .word w]) (.name (p ++ '.' :: w))
  | paren {ts : List Token} {t : Outline} (h : Reads Rank.or ts t) :
    Reads Rank.atom (.opening :: (ts ++ [.closing])) t
  | contains {rs xs : List Token} {r x : Outline} (hr : Reads Rank.atom rs r)
    (hx : Reads Rank.or xs x) :
    Reads Rank.atom (rs ++ callTokens .contains ++ (xs ++ [.closing])) (.contains r x)
  | anyItem {rs : List Token} {r : Outline} (hr : Reads Rank.atom rs r) :
    Reads Rank.atom (rs ++ callTokens .any ++ [.closing]) (.any r none)
  | any {rs : List Token} {r : Outline} (hr : Reads Rank.atom rs r) (p : List Char) :
    Reads Rank.atom (rs ++ callTokens .any ++ [.word p, .closing]) (.any r (some p))
  | all {rs : List Token} {r : Outline} (hr : Reads Rank.atom rs r) (p : List Char) :
    Reads Rank.atom (rs ++ callTokens .all ++ [.word p, .closing]) (.all r p)
  | sequenceEqual {rs xs : List Token} {r x : Outline} (hr : Reads Rank.atom rs r)
    (hx : Reads Rank.or xs x) :
    Reads Rank.atom (rs ++ callTokens .sequenceEqual ++ (xs ++ [.closing]))
      (.sequenceEqual r x none)
  | sequenceEqualBy {rs xs : List Token} {r x : Outline} (hr : Reads Rank.atom rs r)
    (hx : Reads Rank.or xs x) (c : List Char) :
    Reads Rank.atom (rs ++ callTokens .sequenceEqualBy ++ (xs ++ [.comma, .word c, .closing]))
      (.sequenceEqual r x (some c))
  | not {ts : List Token} {t : Outline} (h : Reads Rank.unary ts t) :
    Reads Rank.unary (.bang :: ts) (.not t)
  | binary {ls rs : List Token} {l r : Outline} (op : Operator) (hl : Reads op.rank ls l)
    (hr : Reads (op.rank + 1) rs r) : Reads op.rank (ls ++ .operator op :: rs) (.binary op l r)
  | loosen {j k : Nat} {ts : List Token} {t : Outline} (h : Reads k ts t) (hle : j ≤ k) : Reads j ts t

namespace Outline

def rank : Outline → Nat
  | .binary op _ _ => op.rank
  | .not _ => Rank.unary
  | _ => Rank.atom

-- The parentheses that a place of the given rank asks for around a tree.
def wraps (t : Outline) (rank : Nat) : Nat := if t.rank < rank then 1 else 0

-- The opening parentheses that the levels of its parts and its calls ask for in a tree.
def opens : Outline → Nat
  | .name _ => 0
  | .binary op l r => (l.opens + l.wraps op.rank) + (r.opens + r.wraps (op.rank + 1))
  | .not t => t.opens + t.wraps Rank.unary
  | .contains r x | .sequenceEqual r x _ => (r.opens + r.wraps Rank.atom) + 1 + x.opens
  | .any r _ | .all r _ => (r.opens + r.wraps Rank.atom) + 1

theorem wraps_le_one (t : Outline) (rank : Nat) : t.wraps rank ≤ 1 := by
  unfold wraps
  split <;> omega

theorem wraps_eq_zero {t : Outline} {rank : Nat} (h : rank ≤ t.rank) : t.wraps rank = 0 :=
  if_neg (Nat.not_lt.2 h)

theorem opens_add_wraps_le (t : Outline) {n : Nat} (h : t.opens ≤ n) :
    t.opens + t.wraps t.rank ≤ n := by
  rw [wraps_eq_zero (Nat.le_refl _), Nat.add_zero]
  exact h

theorem wraps_mono (t : Outline) {j k : Nat} (h : j ≤ k) : t.wraps j ≤ t.wraps k := by
  unfold wraps
  split <;> split <;> omega

theorem or_le_rank (t : Outline) : Rank.or ≤ t.rank := by
  unfold rank
  split
  · exact (Operator.rank_bounds _).1
  · decide
  · decide

end Outline

theorem count_call (rs : List Token) (m : Method) (us : List Token) :
    (rs ++ callTokens m ++ us).count .opening = rs.count .opening + 1 + us.count .opening := by
  rw [List.count_append, List.count_append]
  rfl

-- A text cannot have fewer parentheses than its tree asks for in the place.
theorem Reads.opens_le_count {k : Nat} {ts : List Token} {t : Outline} (h : Reads k ts t) :
    t.opens + t.wraps k ≤ ts.count .opening := by
  induction h with
  | name w => exact Nat.zero_le _
  | dot h w ih => exact Nat.zero_le _
  | @paren ts t h ih =>
    have hwraps := t.wraps_le_one Rank.atom
    rw [List.count_cons_self, List.count_append]
    omega
  | @contains rs xs r x hr hx ihr ihx =>
    refine Outline.opens_add_wraps_le (.contains r x) ?_
    rw [Outline.opens, count_call, List.count_append]
    omega
  | @anyItem rs r hr ihr =>
    refine Outline.opens_add_wraps_le (.any r none) ?_
    rw [Outline.opens, count_call]
    omega
  | @any rs r hr p ihr =>
    refine Outline.opens_add_wraps_le (.any r (some p)) ?_
    rw [Outline.opens, count_call]
    omega
  | @all rs r hr p ihr =>
    refine Outline.opens_add_wraps_le (.all r p) ?_
    rw [Outline.opens, count_call]
    omega
  | @sequenceEqual rs xs r x hr hx ihr ihx =>
    refine Outline.opens_add_wraps_le (.sequenceEqual r x none) ?_
    rw [Outline.opens, count_call, List.count_append]
    omega
  | @sequenceEqualBy rs xs r x hr hx c ihr ihx =>
    refine Outline.opens_add_wraps_le (.sequenceEqual r x (some c)) ?_
    rw [Outline.opens, count_call, List.count_append]
    omega
  | @not ts t h ih =>
    refine Outline.opens_add_wraps_le (.not t) ?_
    rw [Outline.opens, List.count_cons_of_ne (by decide)]
    omega
  | @binary ls rs l r op hl hr ihl ihr =>
    refine Outline.opens_add_wraps_le (.binary op l r) ?_
    rw [Outline.opens, List.count_append, List.count_cons_of_ne (by simp)]
    omega
  | @loosen j k ts t h hle ih =>
    have hwraps := t.wraps_mono hle
    omega

end Verdict.Grammar
