import Verdict.Proofs.Diff.CommonSubsequence

namespace Verdict

variable {α β : Type} {eq : α → β → Bool}

namespace Edit

def left? : Edit → Option Nat
  | .equal i _ | .delete i => some i
  | .insert _ => none

def right? : Edit → Option Nat
  | .equal _ j | .insert j => some j
  | .delete _ => none

end Edit

def equalSteps (script : List Edit) : Nat := script.countP fun step => !step.isChange

@[simp] theorem equalSteps_equal (i j : Nat) (script : List Edit) :
    equalSteps (.equal i j :: script) = equalSteps script + 1 :=
  List.countP_cons_of_pos rfl

@[simp] theorem equalSteps_delete (i : Nat) (script : List Edit) :
    equalSteps (.delete i :: script) = equalSteps script :=
  List.countP_cons_of_neg Bool.false_ne_true

@[simp] theorem equalSteps_insert (j : Nat) (script : List Edit) :
    equalSteps (.insert j :: script) = equalSteps script :=
  List.countP_cons_of_neg Bool.false_ne_true

theorem equalSteps_append (script rest : List Edit) :
    equalSteps (script ++ rest) = equalSteps script + equalSteps rest :=
  List.countP_append

theorem equalSteps_shift (n : Nat) (script : List Edit) :
    equalSteps (script.map (Edit.shift n)) = equalSteps script := by
  rw [equalSteps, List.countP_map, equalSteps]
  refine List.countP_congr fun step _ => ?_
  cases step <;> rfl

theorem equalSteps_map_equal {γ : Type} (f g : γ → Nat) (places : List γ) :
    equalSteps (places.map fun k => .equal (f k) (g k)) = places.length := by
  rw [equalSteps, List.countP_map]
  exact List.countP_eq_length.2 fun _ _ => rfl

-- The script turns what is left of the left list, from place `i` on, into what is left of the right
-- list, from place `j` on.
inductive Script (eq : α → β → Bool) : Nat → Nat → List α → List β → List Edit → Prop where
  | done {i j : Nat} : Script eq i j [] [] []
  | equal {i j : Nat} {x : α} {y : β} {xs : List α} {ys : List β} {script : List Edit}
    (heq : eq x y = true) (h : Script eq (i + 1) (j + 1) xs ys script) :
    Script eq i j (x :: xs) (y :: ys) (.equal i j :: script)
  | delete {i j : Nat} {x : α} {xs : List α} {ys : List β} {script : List Edit}
    (h : Script eq (i + 1) j xs ys script) : Script eq i j (x :: xs) ys (.delete i :: script)
  | insert {i j : Nat} {y : β} {xs : List α} {ys : List β} {script : List Edit}
    (h : Script eq i (j + 1) xs ys script) : Script eq i j xs (y :: ys) (.insert j :: script)

namespace Script

variable {i j : Nat} {xs xs' : List α} {ys ys' : List β} {script script' : List Edit}

theorem append {i' j' : Nat} (h : Script eq i j xs ys script) (h' : Script eq i' j' xs' ys' script')
    (hi : i' = i + xs.length) (hj : j' = j + ys.length) :
    Script eq i j (xs ++ xs') (ys ++ ys') (script ++ script') := by
  subst hi
  subst hj
  induction h with
  | done => exact h'
  | equal heq _ ih =>
    refine .equal heq (ih ?_)
    rw [Nat.add_right_comm, Nat.add_right_comm _ 1]
    exact h'
  | delete _ ih =>
    refine .delete (ih ?_)
    rw [Nat.add_right_comm]
    exact h'
  | insert _ ih =>
    refine .insert (ih ?_)
    rw [Nat.add_right_comm _ 1]
    exact h'

theorem shift (h : Script eq i j xs ys script) (n : Nat) :
    Script eq (n + i) (n + j) xs ys (script.map (Edit.shift n)) := by
  induction h with
  | done => exact .done
  | equal heq _ ih => exact .equal heq ih
  | delete _ ih => exact .delete ih
  | insert _ ih => exact .insert ih

theorem of_related {n : Nat} (i j : Nat) (h : List.Forall₂ (fun x y => eq x y = true) xs ys)
    (hlen : xs.length = n) :
    Script eq i j xs ys ((List.range n).map fun k => .equal (i + k) (j + k)) := by
  subst hlen
  induction h generalizing i j with
  | nil => exact .done
  | cons heq _ ih =>
    rw [List.length_cons, List.range_succ_eq_map, List.map_cons, List.map_map]
    have hrest := ih (i + 1) (j + 1)
    simp only [Nat.add_right_comm, Nat.add_assoc] at hrest
    exact .equal heq hrest

theorem left_places (h : Script eq i j xs ys script) :
    script.filterMap Edit.left? = List.range' i xs.length := by
  induction h with
  | done => rfl
  | equal _ _ ih => exact congrArg (_ :: ·) ih
  | delete _ ih => exact congrArg (_ :: ·) ih
  | insert _ ih => exact ih

theorem right_places (h : Script eq i j xs ys script) :
    script.filterMap Edit.right? = List.range' j ys.length := by
  induction h with
  | done => rfl
  | equal _ _ ih => exact congrArg (_ :: ·) ih
  | delete _ ih => exact ih
  | insert _ ih => exact congrArg (_ :: ·) ih

theorem related_of_mem (h : Script eq i j xs ys script) {a b : Nat}
    (hmem : .equal a b ∈ script) :
    ∃ m n x y, a = i + m ∧ b = j + n ∧ xs[m]? = some x ∧ ys[n]? = some y ∧ eq x y = true := by
  induction h with
  | done => cases hmem
  | @equal i j x y xs ys script heq _ ih =>
    rcases List.mem_cons.1 hmem with hhead | htail
    · cases hhead
      exact ⟨0, 0, x, y, rfl, rfl, rfl, rfl, heq⟩
    · obtain ⟨m, n, x', y', rfl, rfl, hx, hy, heq'⟩ := ih htail
      exact ⟨m + 1, n + 1, x', y', by omega, by omega, hx, hy, heq'⟩
  | delete _ ih =>
    rcases List.mem_cons.1 hmem with hhead | htail
    · cases hhead
    · obtain ⟨m, n, x, y, rfl, rfl, hx, hy, heq⟩ := ih htail
      exact ⟨m + 1, n, x, y, by omega, rfl, hx, hy, heq⟩
  | insert _ ih =>
    rcases List.mem_cons.1 hmem with hhead | htail
    · cases hhead
    · obtain ⟨m, n, x, y, rfl, rfl, hx, hy, heq⟩ := ih htail
      exact ⟨m, n + 1, x, y, rfl, by omega, hx, hy, heq⟩

end Script

end Verdict
