import Verdict.Diff.Text
import Verdict.Proofs.Diff.Edits
import Mathlib.Data.List.Chain

namespace Verdict

-- A removal does not come right behind an addition.
def Change.InOrder (change next : Change) : Prop := ¬(change = .added ∧ next = .removed)

def Edit.change : Edit → Change
  | .equal _ _ => .kept
  | .delete _ => .removed
  | .insert _ => .added

section

variable {α β : Type} {eq : α → β → Bool} {left left' : List α} {right right' : List β}

theorem longestCommon_mono (hleft : left.Sublist left') (hright : right.Sublist right') :
    longestCommon eq left right ≤ longestCommon eq left' right' := by
  obtain ⟨xs, ys, h, hlen⟩ := longestCommon_mem eq left right
  rw [← hlen]
  exact length_le_longestCommon ⟨h.left.trans hleft, h.right.trans hright, h.related⟩

-- The items that a script keeps are a common subsequence, so they are never more than a longest one has.
theorem Script.equalSteps_le {i j : Nat} {script : List Edit} (h : Script eq i j left right script) :
    equalSteps script ≤ longestCommon eq left right := by
  induction h with
  | done => exact Nat.zero_le _
  | @equal i j x y xs ys script heq _ ih =>
    rw [equalSteps_equal, longestCommon_cons_of_eq heq]
    exact Nat.succ_le_succ ih
  | @delete i j x xs ys script _ ih =>
    rw [equalSteps_delete]
    exact ih.trans (longestCommon_mono (List.sublist_cons_self x xs) (List.Sublist.refl ys))
  | @insert i j y xs ys script _ ih =>
    rw [equalSteps_insert]
    exact ih.trans (longestCommon_mono (List.Sublist.refl xs) (List.sublist_cons_self y ys))

end

section

variable {changes : List Change} {change : Change}

theorem isChain_cons_of_ne_added (hne : change ≠ .added) (h : changes.IsChain Change.InOrder) :
    (change :: changes).IsChain Change.InOrder :=
  h.cons fun _ _ hboth => hne hboth.1

theorem isChain_cons_of_head?_ne (hne : changes.head? ≠ some .removed)
    (h : changes.IsChain Change.InOrder) : (change :: changes).IsChain Change.InOrder := by
  refine h.cons fun next hnext hboth => hne ?_
  rw [← hboth.2]
  exact hnext

theorem isChain_replicate_kept (n : Nat) : (List.replicate n Change.kept).IsChain Change.InOrder :=
  List.isChain_replicate_of_rel n fun hboth => nomatch hboth.1

end

section

variable {α β : Type} {eq : α → β → Bool} {script run : List Edit}

theorem map_change_shift (n : Nat) (script : List Edit) :
    (script.map (·.shift n)).map Edit.change = script.map Edit.change := by
  rw [List.map_map]
  refine List.map_congr_left fun step _ => ?_
  cases step <;> rfl

theorem map_change_equal {γ : Type} (f g : γ → Nat) (places : List γ) :
    (places.map fun k => Edit.equal (f k) (g k)).map Edit.change =
      List.replicate places.length .kept := by
  rw [List.map_map]
  exact List.map_const'

-- A deletion right behind an insertion keeps no more than a script that leaves out the item on the left in the
-- first place, and then the table would not have had the insertion.
theorem not_removed_of_script {i j : Nat} {x : α} {xs : List α} {y : β} {ys : List β}
    (hscript : Script eq i j (x :: xs) ys script)
    (hsteps : equalSteps script = longestCommon eq (x :: xs) ys)
    (hlt : longestCommon eq xs (y :: ys) < longestCommon eq (x :: xs) ys) :
    (script.map Edit.change).head? ≠ some .removed := by
  cases hscript with
  | equal | insert => nofun
  | @delete _ _ _ _ _ rest hrest =>
    rw [equalSteps_delete] at hsteps
    have hkept : longestCommon eq (x :: xs) ys ≤ longestCommon eq xs ys := hsteps ▸ hrest.equalSteps_le
    have hmono : longestCommon eq xs ys ≤ longestCommon eq xs (y :: ys) :=
      longestCommon_mono (List.Sublist.refl xs) (List.sublist_cons_self y ys)
    omega

theorem isChain_followTable (eq : α → β → Bool) (right : List β) (i j : Nat) (xs : List α) (ys : List β)
    (rows : List (Array Nat)) (hrows : rows = commonTable eq right xs) (hys : ys = right.drop j) :
    ((followTable eq rows i j xs ys).map Edit.change).IsChain Change.InOrder := by
  fun_induction followTable eq rows i j xs ys with
  | case1 rows i j => exact .nil
  | case2 rows i j x xs ih =>
    exact isChain_cons_of_ne_added (by simp [Edit.change]) (ih (tail_of_commonTable hrows) hys)
  | case3 rows i j y ys ih =>
    have hrest := (drop_succ_of_cons hys).2
    refine isChain_cons_of_head?_ne ?_ (ih hrows hrest)
    -- Nothing is left that could be deleted.
    cases ys <;> rw [followTable] <;> simp [Edit.change]
  | case4 rows i j x xs y ys heq ih =>
    have hrest := (drop_succ_of_cons hys).2
    exact isChain_cons_of_ne_added (by simp [Edit.change]) (ih (tail_of_commonTable hrows) hrest)
  | case5 rows i j x xs y ys hne hle ih =>
    exact isChain_cons_of_ne_added (by simp [Edit.change]) (ih (tail_of_commonTable hrows) hys)
  | case6 rows i j x xs y ys hne hlt ih =>
    have hrest := (drop_succ_of_cons hys).2
    obtain ⟨hscript, hsteps⟩ := script_followTable eq right i (j + 1) (x :: xs) ys rows hrows hrest
    rw [ge_iff_le, entry_le_entry_iff hrows hys, Nat.not_le] at hlt
    exact isChain_cons_of_head?_ne (not_removed_of_script hscript hsteps hlt) (ih hrows hrest)

theorem isChain_edits (eq : α → β → Bool) (left : List α) (right : List β) :
    ((edits eq left right).map Edit.change).IsChain Change.InOrder := by
  let part := changedPart eq left right
  have hmiddle := isChain_followTable eq part.right 0 0 part.left part.right _ rfl rfl
  rw [edits, List.map_append, List.map_append, map_change_equal, map_change_equal, map_change_shift]
  refine ((isChain_replicate_kept _).append hmiddle ?_).append (isChain_replicate_kept _) ?_
  · rintro change hchange next - ⟨rfl, -⟩
    cases List.eq_of_mem_replicate (List.mem_of_getLast? hchange)
  · rintro change - next hnext ⟨-, rfl⟩
    cases List.eq_of_mem_replicate (List.mem_of_head? hnext)

-- Changes with no unchanged step between them.
theorem exists_blocks (hrun : (run.map Edit.change).IsChain Change.InOrder)
    (hchange : ∀ step ∈ run, step.isChange = true) :
    ∃ deleted inserted : List Nat, run = deleted.map .delete ++ inserted.map .insert := by
  induction run with
  | nil => exact ⟨[], [], rfl⟩
  | cons step run ih =>
    obtain ⟨hstep, hrest⟩ := List.forall_mem_cons.1 hchange
    obtain ⟨hnext, htail⟩ := List.isChain_cons.1 hrun
    obtain ⟨deleted, inserted, rfl⟩ := ih htail hrest
    cases step with
    | equal i j => cases hstep
    | delete i => exact ⟨i :: deleted, inserted, rfl⟩
    | insert j =>
      cases deleted with
      | nil => exact ⟨[], j :: inserted, rfl⟩
      | cons i deleted => exact absurd ⟨rfl, rfl⟩ (hnext .removed rfl)

-- No step of the script deletes right behind one that inserts, so changes that no unchanged step parts are
-- deletions and then insertions.
theorem edits_delete_first (eq : α → β → Bool) (left : List α) (right : List β) :
    (∀ i j, ¬[Edit.insert j, .delete i] <:+: edits eq left right) ∧
      ∀ run, run <:+: edits eq left right → (∀ step ∈ run, step.isChange = true) →
        ∃ deleted inserted : List Nat, run = deleted.map .delete ++ inserted.map .insert := by
  have hchain := isChain_edits eq left right
  constructor
  · intro i j hwithin
    have hpair := hchain.infix (hwithin.map Edit.change)
    exact List.isChain_pair.1 hpair ⟨rfl, rfl⟩
  · intro run hwithin hchange
    have hrun := hchain.infix (hwithin.map Edit.change)
    exact exists_blocks hrun hchange

example : edits (fun x y : Nat => x == y) [1, 2, 3, 4] [1, 5, 6, 4] =
    [.equal 0 0, .delete 1, .delete 2, .insert 1, .insert 2, .equal 3 3] := by cbv

end

end Verdict
