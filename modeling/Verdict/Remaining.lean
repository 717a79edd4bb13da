namespace Verdict

-- How many members of a list have not been visited.
def remaining {α : Type} [DecidableEq α] (members visited : List α) : Nat :=
  members.countP fun x => x ∉ visited

section

variable {α : Type} [DecidableEq α] {members visited : List α} {x : α}

theorem remaining_cons_le : remaining members (x :: visited) ≤ remaining members visited := by
  apply List.countP_mono_left
  intro y _ hy
  simp only [decide_eq_true_eq, List.mem_cons, not_or] at hy ⊢
  exact hy.2

theorem remaining_cons_lt (hx : x ∈ members) (hv : x ∉ visited) :
    remaining members (x :: visited) < remaining members visited := by
  induction members with
  | nil => simp at hx
  | cons y ys ih =>
    have hle : remaining ys (x :: visited) ≤ remaining ys visited := remaining_cons_le
    simp only [remaining, List.countP_cons] at hle ih ⊢
    rcases List.mem_cons.1 hx with rfl | hmem
    · rw [if_neg fun h => absurd List.mem_cons_self (of_decide_eq_true h), if_pos (decide_eq_true hv)]
      omega
    · have hlt := ih hmem
      by_cases hy : y ∈ x :: visited
      · rw [if_neg fun h => absurd hy (of_decide_eq_true h)]
        omega
      · have hyv : y ∉ visited := fun h => hy (List.mem_cons_of_mem _ h)
        rw [if_pos (decide_eq_true hy), if_pos (decide_eq_true hyv)]
        omega

end

end Verdict
