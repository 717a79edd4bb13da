import Verdict.Proofs.Expr.Grammar

namespace Verdict.Grammar

-- A name is made of anything but blanks and the punctuation of expressions.
def isNameChar (c : Char) : Bool := !" (),.!=<>&|".toList.contains c

-- The tokens that follow a held back beginning of a word.
def afterHeld (held : List Char) (ts : List Token) : List Token :=
  if held = [] then ts else .word held :: ts

-- The tokens of a text; of two operators that fit, the longer one.
def lex (held : List Char) : List Char → Option (List Token)
  | [] => some (afterHeld held [])
  | ' ' :: cs => (lex [] cs).map (afterHeld held)
  | '(' :: cs => (lex [] cs).map (afterHeld held <| .opening :: ·)
  | ')' :: cs => (lex [] cs).map (afterHeld held <| .closing :: ·)
  | ',' :: cs => (lex [] cs).map (afterHeld held <| .comma :: ·)
  | '.' :: cs => (lex [] cs).map (afterHeld held <| .dot :: ·)
  | '=' :: '=' :: cs => (lex [] cs).map (afterHeld held <| .operator (.compare .equal) :: ·)
  | '!' :: '=' :: cs => (lex [] cs).map (afterHeld held <| .operator (.compare .notEqual) :: ·)
  | '!' :: cs => (lex [] cs).map (afterHeld held <| .bang :: ·)
  | '<' :: '=' :: cs => (lex [] cs).map (afterHeld held <| .operator (.compare .lessOrEqual) :: ·)
  | '<' :: cs => (lex [] cs).map (afterHeld held <| .operator (.compare .less) :: ·)
  | '>' :: '=' :: cs => (lex [] cs).map (afterHeld held <| .operator (.compare .greaterOrEqual) :: ·)
  | '>' :: cs => (lex [] cs).map (afterHeld held <| .operator (.compare .greater) :: ·)
  | '&' :: '&' :: cs => (lex [] cs).map (afterHeld held <| .operator (.logical .and) :: ·)
  | '|' :: '|' :: cs => (lex [] cs).map (afterHeld held <| .operator (.logical .or) :: ·)
  | c :: cs => if isNameChar c then lex (held ++ [c]) cs else none

-- What is still open in front of an operand.
inductive Frame where
  | paren
  | not
  | left (op : Operator) (operand : Outline)
  | argument (method : Method) (receiver : Outline)
  deriving DecidableEq, Repr

-- What is awaited: an operand, the name of a predicate or of a comparer, or what follows a tree.
inductive State where
  | operand (stack : List Frame)
  | predicate (stack : List Frame) (method : Method) (receiver : Outline)
  | comparer (stack : List Frame) (receiver other : Outline)
  | after (stack : List Frame) (tree : Outline)
  deriving DecidableEq, Repr

-- Closes the operators that bind at least as tightly as the given rank.
def reduce (rank : Nat) : List Frame → Outline → List Frame × Outline
  | .not :: stack, t => reduce rank stack (.not t)
  | .left op l :: stack, t =>
    if rank ≤ op.rank then reduce rank stack (.binary op l t) else (.left op l :: stack, t)
  | stack, t => (stack, t)

def State.called (stack : List Frame) (receiver : Outline) : Method → State
  | .any => .predicate stack .any receiver
  | .all => .predicate stack .all receiver
  | .contains => .operand (.argument .contains receiver :: stack)
  | .sequenceEqual => .operand (.argument .sequenceEqual receiver :: stack)
  | .sequenceEqualBy => .operand (.argument .sequenceEqualBy receiver :: stack)

-- A closing parenthesis ends what the operand inside it was an operand of.
def State.closed? : List Frame × Outline → Option State
  | (.paren :: stack, t) => some (.after stack t)
  | (.argument .contains r :: stack, t) => some (.after stack (.contains r t))
  | (.argument .sequenceEqual r :: stack, t) => some (.after stack (.sequenceEqual r t none))
  | _ => none

def State.separated? : List Frame × Outline → Option State
  | (.argument .sequenceEqualBy r :: stack, t) => some (.comparer stack r t)
  | _ => none

def finished? : List Frame × Outline → Option Outline
  | ([], t) => some t
  | _ => none

def run : State → List Token → Option Outline
  | .operand stack, .bang :: ts => run (.operand (.not :: stack)) ts
  | .operand stack, .opening :: ts => run (.operand (.paren :: stack)) ts
  | .operand stack, .word w :: ts => run (.after stack (.name w)) ts
  | .predicate stack .any r, .closing :: ts => run (.after stack (.any r none)) ts
  | .predicate stack .any r, .word p :: .closing :: ts => run (.after stack (.any r (some p))) ts
  | .predicate stack .all r, .word p :: .closing :: ts => run (.after stack (.all r p)) ts
  | .comparer stack r x, .word c :: .closing :: ts => run (.after stack (.sequenceEqual r x (some c))) ts
  | .after stack t, [] => finished? (reduce Rank.or stack t)
  | .after stack t, .operator op :: ts =>
    run (.operand (.left op (reduce op.rank stack t).2 :: (reduce op.rank stack t).1)) ts
  | .after stack t, .closing :: ts =>
    match State.closed? (reduce Rank.or stack t) with
    | some next => run next ts
    | none => none
  | .after stack t, .comma :: ts =>
    match State.separated? (reduce Rank.or stack t) with
    | some next => run next ts
    | none => none
  | .after stack t, .dot :: .word w :: .opening :: ts =>
    match Method.ofWord? w with
    | some method => run (.called stack t method) ts
    | none => none
  | .after stack (.name p), .dot :: .word w :: ts => run (.after stack (.name (p ++ '.' :: w))) ts
  | _, _ => none

def Fits (rank : Nat) : List Frame → Prop
  | .not :: _ => Rank.unary ≤ rank
  | .left op _ :: _ => op.rank < rank
  | _ => True

-- What may follow a tree that was read in a place of the given rank.
def Stops (rank : Nat) : List Token → Prop
  | [] | .closing :: _ | .comma :: _ => True
  | .operator op :: _ => op.rank ≤ rank
  | .dot :: _ => Rank.atom ≤ rank
  | _ => False

theorem Fits.mono {j k : Nat} {stack : List Frame} (hfits : Fits j stack) (h : j ≤ k) :
    Fits k stack := by
  cases stack with
  | nil => trivial
  | cons frame stack =>
    cases frame with
    | not => exact Nat.le_trans hfits h
    | left op l => exact Nat.lt_of_lt_of_le hfits h
    | paren | argument => trivial

theorem Stops.mono {j k : Nat} {rest : List Token} (hstops : Stops j rest) (h : j ≤ k) :
    Stops k rest := by
  cases rest with
  | nil => trivial
  | cons token rest =>
    cases token with
    | operator op => exact Nat.le_trans hstops h
    | dot => exact Nat.le_trans hstops h
    | closing | comma => trivial
    | word | opening | bang => cases hstops

theorem reduce_of_fits {rank : Nat} (hrank : rank < Rank.unary) {stack : List Frame}
    (hfits : Fits rank stack) (t : Outline) : reduce rank stack t = (stack, t) := by
  cases stack with
  | nil => rfl
  | cons frame stack =>
    cases frame with
    | not => exact absurd hrank (Nat.not_lt.2 hfits)
    | left op l => rw [reduce, if_neg (Nat.not_le.2 hfits)]
    | paren | argument => rfl

-- Stacks that reduce alike are the same to what may follow a tree looser than an atom.
theorem run_after_congr {rank : Nat} (hor : Rank.or ≤ rank) (hunary : rank ≤ Rank.unary)
    {stack stack' : List Frame} {t t' : Outline}
    (hreduce : ∀ k ≤ rank, reduce k stack t = reduce k stack' t') {rest : List Token}
    (hstops : Stops rank rest) : run (.after stack t) rest = run (.after stack' t') rest := by
  cases rest with
  | nil => rw [run, run, hreduce _ hor]
  | cons token rest =>
    cases token with
    | operator op => rw [run, run, hreduce op.rank hstops]
    | closing => rw [run, run, hreduce _ hor]
    | comma => rw [run, run, hreduce _ hor]
    | dot => exact absurd (Nat.le_trans hstops hunary) (by decide)
    | word | opening | bang => cases hstops

theorem run_call (stack : List Frame) (r : Outline) (m : Method) (rest : List Token) :
    run (.after stack r) (callTokens m ++ rest) = run (.called stack r m) rest := by
  rw [callTokens, List.cons_append, List.cons_append, List.cons_append, List.nil_append, run,
    Method.ofWord?_word]

-- A member of a name makes it longer, unless it is called.
theorem run_dot (stack : List Frame) (p w : List Char) {rest : List Token}
    (hstops : Stops Rank.atom rest) :
    run (.after stack (.name p)) (.dot :: .word w :: rest) =
      run (.after stack (.name (p ++ '.' :: w))) rest := by
  rw [run]
  rintro ts rfl
  cases hstops

-- Where the tokens of a tree stand for an operand the reader comes to what follows them with the tree. What
-- is still open inside them is closed there, since it binds more tightly than what may follow.
theorem run_operand {k : Nat} {ts : List Token} {t : Outline} (h : Reads k ts t)
    {stack : List Frame} {rest : List Token} (hfits : Fits k stack) (hstops : Stops k rest) :
    run (.operand stack) (ts ++ rest) = run (.after stack t) rest := by
  have hparen {S : List Frame} : Fits Rank.or (.paren :: S) := trivial
  have hargument {S : List Frame} {m : Method} {r : Outline} :
    Fits Rank.or (.argument m r :: S) := trivial
  have hclosing {us : List Token} : Stops Rank.or (.closing :: us) := trivial
  have hcomma {us : List Token} : Stops Rank.or (.comma :: us) := trivial
  have hdot {us : List Token} : Stops Rank.atom (.dot :: us) := Nat.le_refl _
  have hcall {m : Method} {us : List Token} : Stops Rank.atom (callTokens m ++ us) :=
    Nat.le_refl _
  induction h generalizing stack rest with
  | name w => rfl
  | @dot ts p h w ih =>
    simp only [List.append_assoc, List.cons_append, List.nil_append]
    rw [ih hfits hdot, run_dot stack p w hstops]
  | @paren ts t h ih =>
    simp only [List.append_assoc, List.cons_append, List.nil_append]
    rw [run, ih hparen hclosing]
    rfl
  | @contains rs xs r x hr hx ihr ihx =>
    simp only [List.append_assoc, List.cons_append, List.nil_append]
    rw [ihr hfits hcall, run_call, State.called, ihx hargument hclosing]
    rfl
  | @anyItem rs r hr ihr =>
    rw [List.append_assoc, List.append_assoc, ihr hfits hcall, run_call]
    rfl
  | @any rs r hr p ihr =>
    rw [List.append_assoc, List.append_assoc, ihr hfits hcall, run_call]
    rfl
  | @all rs r hr p ihr =>
    rw [List.append_assoc, List.append_assoc, ihr hfits hcall, run_call]
    rfl
  | @sequenceEqual rs xs r x hr hx ihr ihx =>
    simp only [List.append_assoc, List.cons_append, List.nil_append]
    rw [ihr hfits hcall, run_call, State.called, ihx hargument hclosing]
    rfl
  | @sequenceEqualBy rs xs r x hr hx c ihr ihx =>
    simp only [List.append_assoc, List.cons_append, List.nil_append]
    rw [ihr hfits hcall, run_call, State.called, ihx hargument hcomma]
    rfl
  | @not ts t h ih =>
    have hnot : Fits Rank.unary (.not :: stack) := Nat.le_refl _
    rw [List.cons_append, run, ih hnot hstops]
    exact run_after_congr (by decide) (Nat.le_refl _) (fun k _ => by rw [reduce]) hstops
  | @binary ls rs l r op hl hr ihl ihr =>
    obtain ⟨hor, hunary⟩ := op.rank_bounds
    have hop {us : List Token} : Stops op.rank (.operator op :: us) := Nat.le_refl _
    have hleft : Fits (op.rank + 1) (.left op l :: stack) := Nat.lt_succ_self _
    rw [List.append_assoc, List.cons_append, ihl hfits hop, run, reduce_of_fits hunary hfits,
      ihr hleft (hstops.mono (Nat.le_succ _))]
    exact run_after_congr hor (Nat.le_of_lt hunary) (fun k hk => by rw [reduce, if_pos hk]) hstops
  | @loosen j k ts t h hle ih => exact ih (hfits.mono hle) (hstops.mono hle)

-- What the tokens read as is what the reader finds.
theorem run_eq_some_of_reads {ts : List Token} {t : Outline} (h : Reads Rank.or ts t) :
    run (.operand []) ts = some t := by
  have hfits : Fits Rank.or [] := trivial
  have hstops : Stops Rank.or [] := trivial
  have hrun := run_operand h hfits hstops
  rw [List.append_nil] at hrun
  exact hrun

-- The tokens in front of an operand at which the given frames are open.
inductive Opened : List Frame → List Token → Prop where
  | nil : Opened [] []
  | paren {stack : List Frame} {ts : List Token} (h : Opened stack ts) :
    Opened (.paren :: stack) (ts ++ [.opening])
  | not {stack : List Frame} {ts : List Token} (h : Opened stack ts) :
    Opened (.not :: stack) (ts ++ [.bang])
  | left {stack : List Frame} {ts ls : List Token} {op : Operator} {l : Outline}
    (h : Opened stack ts) (hfits : Fits op.rank stack) (hl : Reads op.rank ls l) :
    Opened (.left op l :: stack) (ts ++ (ls ++ [.operator op]))
  | argument {stack : List Frame} {ts rs : List Token} {r : Outline} (h : Opened stack ts)
    (m : Method) (hr : Reads Rank.atom rs r) :
    Opened (.argument m r :: stack) (ts ++ (rs ++ callTokens m))

theorem fits_unary (stack : List Frame) : Fits Rank.unary stack := by
  cases stack with
  | nil => trivial
  | cons frame stack =>
    cases frame with
    | not => exact Nat.le_refl _
    | left op l => exact op.rank_bounds.2
    | paren | argument => trivial

theorem fits_atom (stack : List Frame) : Fits Rank.atom stack :=
  (fits_unary stack).mono (by decide)

-- Closing operators only puts the tokens of a tree together.
theorem Opened.exists_reduce {stack : List Frame} {ts us : List Token} {t : Outline} {j k : Nat}
    (h : Opened stack ts) (ht : Reads k us t) (hfits : Fits k stack) (hj : j ≤ k)
    (hunary : j ≤ Rank.unary) :
    ∃ ts' us', ts ++ us = ts' ++ us' ∧ Opened (reduce j stack t).1 ts' ∧
      Fits j (reduce j stack t).1 ∧ Reads j us' (reduce j stack t).2 := by
  induction h generalizing us t k with
  | nil => exact ⟨[], us, rfl, .nil, trivial, ht.loosen hj⟩
  | @paren stack ts h ih => exact ⟨_, us, rfl, .paren h, trivial, ht.loosen hj⟩
  | @not stack ts h ih =>
    rw [List.append_assoc]
    exact ih (.not (ht.loosen hfits)) (fits_unary stack) hunary
  | @left stack ts ls op l h hfits' hl ih =>
    by_cases hop : j ≤ op.rank
    · rw [reduce, if_pos hop, List.append_assoc, List.append_assoc]
      exact ih (.binary op hl (ht.loosen hfits)) hfits' hop
    · rw [reduce, if_neg hop]
      exact ⟨_, us, rfl, .left h hfits' hl, Nat.lt_of_not_le hop, ht.loosen hj⟩
  | @argument stack ts rs r h m hr ih => exact ⟨_, us, rfl, .argument h m hr, trivial, ht.loosen hj⟩

theorem Opened.exists_reduce_atom {stack : List Frame} {ts us : List Token} {t : Outline}
    (h : Opened stack ts) (ht : Reads Rank.atom us t) (j : Nat) (hunary : j ≤ Rank.unary) :
    ∃ ts' us', ts ++ us = ts' ++ us' ∧ Opened (reduce j stack t).1 ts' ∧
      Fits j (reduce j stack t).1 ∧ Reads j us' (reduce j stack t).2 :=
  h.exists_reduce ht (fits_atom stack) (Nat.le_succ_of_le hunary) hunary

-- The tokens that have led to a state.
inductive Consumed : State → List Token → Prop where
  | operand {stack : List Frame} {ts : List Token} (h : Opened stack ts) :
    Consumed (.operand stack) ts
  | predicate {stack : List Frame} {ts rs : List Token} {r : Outline} (h : Opened stack ts)
    (m : Method) (hr : Reads Rank.atom rs r) :
    Consumed (.predicate stack m r) (ts ++ (rs ++ callTokens m))
  | comparer {stack : List Frame} {ts rs xs : List Token} {r x : Outline} (h : Opened stack ts)
    (hr : Reads Rank.atom rs r) (hx : Reads Rank.or xs x) :
    Consumed (.comparer stack r x) (ts ++ (rs ++ callTokens .sequenceEqualBy ++ (xs ++ [.comma])))
  | after {stack : List Frame} {ts us : List Token} {t : Outline} (h : Opened stack ts)
    (ht : Reads Rank.atom us t) : Consumed (.after stack t) (ts ++ us)

theorem Consumed.called {stack : List Frame} {ts us : List Token} {t : Outline} (h : Opened stack ts)
    (ht : Reads Rank.atom us t) (m : Method) :
    Consumed (.called stack t m) (ts ++ (us ++ callTokens m)) := by
  cases m with
  | any => exact .predicate h .any ht
  | all => exact .predicate h .all ht
  | contains => exact .operand (.argument h .contains ht)
  | sequenceEqual => exact .operand (.argument h .sequenceEqual ht)
  | sequenceEqualBy => exact .operand (.argument h .sequenceEqualBy ht)

theorem Consumed.closed {stack : List Frame} {ts us : List Token} {t : Outline} {next : State}
    (h : Opened stack ts) (ht : Reads Rank.or us t)
    (hnext : State.closed? (stack, t) = some next) : Consumed next (ts ++ us ++ [.closing]) := by
  cases h with
  | nil | not | left => cases hnext
  | @paren stack ts h =>
    cases hnext
    simpa only [List.append_assoc, List.cons_append, List.nil_append] using Consumed.after h (.paren ht)
  | @argument stack ts rs r h m hr =>
    cases m with
    | contains =>
      cases hnext
      simpa only [List.append_assoc] using Consumed.after h (.contains hr ht)
    | sequenceEqual =>
      cases hnext
      simpa only [List.append_assoc] using Consumed.after h (.sequenceEqual hr ht)
    | any | all | sequenceEqualBy => cases hnext

theorem Consumed.separated {stack : List Frame} {ts us : List Token} {t : Outline} {next : State}
    (h : Opened stack ts) (ht : Reads Rank.or us t)
    (hnext : State.separated? (stack, t) = some next) : Consumed next (ts ++ us ++ [.comma]) := by
  cases h with
  | nil | paren | not | left => cases hnext
  | @argument stack ts rs r h m hr =>
    cases m with
    | sequenceEqualBy =>
      cases hnext
      simpa only [List.append_assoc] using Consumed.comparer h hr ht
    | contains | any | all | sequenceEqual => cases hnext

theorem reads_of_finished {stack : List Frame} {ts us : List Token} {t t' : Outline}
    (h : Opened stack ts) (ht : Reads Rank.or us t)
    (hfinished : finished? (stack, t) = some t') : Reads Rank.or (ts ++ us) t' := by
  cases h with
  | nil =>
    cases hfinished
    exact ht
  | paren | not | left | argument => cases hfinished

-- Whatever the reader finds the tokens read as. Each step of the machine keeps that the tokens it has taken
-- are those that lead to its state, so at the end they are the tokens of the tree.
theorem reads_of_run {s : State} {ts rest : List Token} {t : Outline} (hs : Consumed s ts)
    (hrun : run s rest = some t) : Reads Rank.or (ts ++ rest) t := by
  fun_induction run s rest generalizing ts with
  | case1 stack rest ih =>
    cases hs with
    | operand h =>
      rw [List.append_cons]
      exact ih (.operand (.not h)) hrun
  | case2 stack rest ih =>
    cases hs with
    | operand h =>
      rw [List.append_cons]
      exact ih (.operand (.paren h)) hrun
  | case3 stack w rest ih =>
    cases hs with
    | operand h =>
      rw [List.append_cons]
      exact ih (.after h (.name w)) hrun
  | case4 stack r rest ih =>
    cases hs with
    | predicate h m hr =>
      have hread := ih (.after h (.anyItem hr)) hrun
      simpa only [List.append_assoc, List.cons_append, List.nil_append] using hread
  | case5 stack r p rest ih =>
    cases hs with
    | predicate h m hr =>
      have hread := ih (.after h (.any hr p)) hrun
      simpa only [List.append_assoc, List.cons_append, List.nil_append] using hread
  | case6 stack r p rest ih =>
    cases hs with
    | predicate h m hr =>
      have hread := ih (.after h (.all hr p)) hrun
      simpa only [List.append_assoc, List.cons_append, List.nil_append] using hread
  | case7 stack r x c rest ih =>
    cases hs with
    | comparer h hr hx =>
      have hread := ih (.after h (.sequenceEqualBy hr hx c)) hrun
      simpa only [List.append_assoc, List.cons_append, List.nil_append] using hread
  | case8 stack t' =>
    cases hs with
    | after h ht =>
      obtain ⟨ts', us', hsplit, hopened, -, hreads⟩ :=
        h.exists_reduce_atom ht Rank.or (by decide)
      rw [List.append_nil, hsplit]
      exact reads_of_finished hopened hreads hrun
  | case9 stack t' op rest ih =>
    cases hs with
    | after h ht =>
      obtain ⟨ts', us', hsplit, hopened, hfits, hreads⟩ :=
        h.exists_reduce_atom ht op.rank (Nat.le_of_lt op.rank_bounds.2)
      rw [hsplit]
      have hread := ih (.operand (.left hopened hfits hreads)) hrun
      simpa only [List.append_assoc, List.cons_append, List.nil_append] using hread
  | case10 stack t' rest next hnext ih =>
    cases hs with
    | after h ht =>
      obtain ⟨ts', us', hsplit, hopened, -, hreads⟩ :=
        h.exists_reduce_atom ht Rank.or (by decide)
      rw [hsplit, List.append_cons]
      exact ih (.closed hopened hreads hnext) hrun
  | case11 => cases hrun
  | case12 stack t' rest next hnext ih =>
    cases hs with
    | after h ht =>
      obtain ⟨ts', us', hsplit, hopened, -, hreads⟩ :=
        h.exists_reduce_atom ht Rank.or (by decide)
      rw [hsplit, List.append_cons]
      exact ih (.separated hopened hreads hnext) hrun
  | case13 => cases hrun
  | case14 stack t' w rest m hm ih =>
    obtain rfl := Method.word_of_ofWord? hm
    cases hs with
    | after h ht =>
      have hread := ih (.called h ht m) hrun
      simpa only [callTokens, List.append_assoc, List.cons_append, List.nil_append] using hread
  | case15 => cases hrun
  | case16 stack p w rest hcall ih =>
    cases hs with
    | after h ht =>
      have hread := ih (.after h (.dot ht w)) hrun
      simpa only [List.append_assoc, List.cons_append, List.nil_append] using hread
  | case17 => cases hrun

theorem run_eq_some_iff {ts : List Token} {t : Outline} :
    run (.operand []) ts = some t ↔ Reads Rank.or ts t :=
  ⟨reads_of_run (.operand .nil), run_eq_some_of_reads⟩

-- The grammar is unambiguous.
theorem Reads.unique {ts : List Token} {t t' : Outline} (h : Reads Rank.or ts t)
    (h' : Reads Rank.or ts t') : t = t' :=
  Option.some_inj.1 ((run_eq_some_iff.2 h).symm.trans (run_eq_some_iff.2 h'))

-- The text does not go on with the name in front of it.
def EndsName (rest : List Char) : Prop := ∀ c ∈ rest.head?, isNameChar c = false

@[simp] theorem afterHeld_nil (ts : List Token) : afterHeld [] ts = ts := rfl

theorem lex_of_endsName {rest : List Char} (hrest : EndsName rest) (held : List Char) :
    lex held rest = (lex [] rest).map (afterHeld held) := by
  fun_cases lex held rest with
  | case16 =>
    rename_i hname
    rw [hrest _ rfl] at hname
    cases hname
  | case17 =>
    rename_i hname
    rw [lex, if_neg hname]
    · rfl
    all_goals assumption
  | _ => simp [lex, Function.comp_def]

theorem lex_of_isNameChar {c : Char} (hname : isNameChar c = true) (held cs : List Char) :
    lex held (c :: cs) = lex (held ++ [c]) cs := by
  rw [lex, if_pos hname]
  -- none of the other rules is for a character of a name
  all_goals
    intros
    subst_vars
    exact absurd hname (by decide)

theorem lex_chars {w : List Char} (hw : ∀ c ∈ w, isNameChar c = true) (held rest : List Char) :
    lex held (w ++ rest) = lex (held ++ w) rest := by
  induction w generalizing held with
  | nil => rw [List.append_nil, List.nil_append]
  | cons c w ih =>
    obtain ⟨hc, hw⟩ := List.forall_mem_cons.1 hw
    rw [List.cons_append, lex_of_isNameChar hc, ih hw, List.append_assoc, List.singleton_append]

structure IsName (w : List Char) : Prop where
  ne_nil : w ≠ []
  isNameChar : ∀ c ∈ w, isNameChar c = true

theorem isName_iff {w : List Char} : IsName w ↔ w ≠ [] ∧ w.all isNameChar = true := by
  rw [List.all_eq_true]
  exact ⟨fun h => ⟨h.ne_nil, h.isNameChar⟩, fun h => ⟨h.1, h.2⟩⟩

instance (w : List Char) : Decidable (IsName w) := decidable_of_iff _ isName_iff.symm

theorem lex_word {w rest : List Char} (hw : IsName w) (hrest : EndsName rest) :
    lex [] (w ++ rest) = (lex [] rest).map (.word w :: ·) := by
  have hheld : afterHeld w = (.word w :: ·) := funext fun ts => if_neg hw.ne_nil
  rw [lex_chars hw.isNameChar, List.nil_append, lex_of_endsName hrest, hheld]

theorem count_afterHeld (held : List Char) (ts : List Token) :
    (afterHeld held ts).count .opening = ts.count .opening := by
  unfold afterHeld
  split
  · rfl
  · rw [List.count_cons_of_ne (by simp)]

theorem ne_opening_of_isNameChar {c : Char} (h : isNameChar c = true) : c ≠ '(' := by
  rintro rfl
  cases h

-- The parentheses of a text are those of its tokens.
theorem count_of_lex {held cs : List Char} {ts : List Token} (h : lex held cs = some ts) :
    ts.count .opening = cs.count '(' := by
  fun_induction lex held cs generalizing ts with
  | case1 held =>
    cases h
    rw [count_afterHeld]
    rfl
  | case16 =>
    rename_i hname ih
    rw [ih h, List.count_cons_of_ne (ne_opening_of_isNameChar hname)]
  | case17 => cases h
  | case9 held cs _ ih | case11 held cs _ ih | case13 held cs _ ih =>
    obtain ⟨us, hus, rfl⟩ := Option.map_eq_some_iff.1 h
    simp [count_afterHeld, ih hus]
  | _ held cs ih =>
    obtain ⟨us, hus, rfl⟩ := Option.map_eq_some_iff.1 h
    simp [count_afterHeld, ih hus]

-- The tree that a text reads as.
def read? (text : List Char) : Option Outline := (lex [] text).bind (run (.operand []))

-- The text as a whole reads as the tree by the rules of the grammar.
def ReadsAs (text : List Char) (t : Outline) : Prop :=
  ∃ ts, lex [] text = some ts ∧ Reads Rank.or ts t

theorem read?_eq_some_iff {text : List Char} {t : Outline} : read? text = some t ↔ ReadsAs text t := by
  simp only [read?, ReadsAs, Option.bind_eq_some_iff, run_eq_some_iff]

example : read? "!(a == b.c) && xs.any(p)".toList = some (.binary (.logical .and)
    (.not (.binary (.compare .equal) (.name "a".toList) (.name "b.c".toList)))
    (.any (.name "xs".toList) (some "p".toList))) := by decide

end Verdict.Grammar
