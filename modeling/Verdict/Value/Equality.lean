import Verdict.Remaining
import Verdict.Value.Order

namespace Verdict

-- Equality of two values that are not two sequences and not two objects.
def Value.agrees : Value → Value → Bool
  | .null, .null => true
  | .bool a, .bool b => a == b
  | .char a, .char b => a == b
  | .text a, .text b => a == b
  | .moment a, .moment b => a.compare b == .eq
  | .raw a, .raw b => a == b
  | a, b =>
    match a.number?, b.number? with
    | some m, some n => m.compare n == some .eq
    | _, _ => false

namespace Heap

-- The pairs of field values that two objects must have equal, or nothing if their shapes differ.
def counterparts (h : Heap) (a b : Ref) : Option (List (Value × Value)) :=
  if h.typeName a = h.typeName b ∧ (h.fields a).length = (h.fields b).length then
    (h.fields a).mapM fun f => ((h.fields b).lookup f.1).map fun v => (f.2, v)
  else none

-- Pairs of objects of the heap that have not been looked at.
def unseen (h : Heap) (seen : List (Ref × Ref)) : Nat :=
  remaining ((List.range h.size).flatMap fun a => (List.range h.size).map fun b => (a, b)) seen

theorem unseen_cons_le (h : Heap) (p : Ref × Ref) (seen : List (Ref × Ref)) :
    h.unseen (p :: seen) ≤ h.unseen seen :=
  remaining_cons_le

theorem unseen_cons_lt {h : Heap} {a b : Ref} {seen : List (Ref × Ref)} (ha : a < h.size)
    (hb : b < h.size) (hs : (a, b) ∉ seen) : h.unseen ((a, b) :: seen) < h.unseen seen :=
  remaining_cons_lt (by simp [ha, hb]) hs

-- Objects with counterparts are both in the heap, or there is nothing to compare.
theorem counterparts_eq_nil_or_lt {h : Heap} {a b : Ref} {pairs : List (Value × Value)}
    (hp : h.counterparts a b = some pairs) : pairs = [] ∨ (a < h.size ∧ b < h.size) := by
  simp only [counterparts] at hp
  split at hp
  · rename_i hshape
    match hfa : h.fields a with
    | [] =>
      rw [hfa] at hp
      simp at hp
      exact .inl hp
    | f :: fs =>
      match hfb : h.fields b with
      | [] => simp [hfa, hfb] at hshape
      | g :: gs =>
        refine .inr ⟨lt_size_of_mem_fields (f := f) ?_, lt_size_of_mem_fields (f := g) ?_⟩
        · simp [hfa]
        · simp [hfb]
  · simp at hp

end Heap

-- The size of what is left to compare, by its left sides.
noncomputable def pendingSize : List (Value × Value) → Nat
  | [] => 0
  | p :: rest => sizeOf p.1 + pendingSize rest

private theorem pendingSize_append (xs ys : List (Value × Value)) :
    pendingSize (xs ++ ys) = pendingSize xs + pendingSize ys := by
  induction xs with
  | nil => simp [pendingSize]
  | cons x xs ih =>
    simp only [List.cons_append, pendingSize, ih]
    omega

private theorem pendingSize_zip_le (xs ys : List Value) : pendingSize (xs.zip ys) ≤ sizeOf xs := by
  induction xs generalizing ys with
  | nil => simp [pendingSize]
  | cons x xs ih =>
    cases ys with
    | nil => simp [pendingSize]
    | cons y ys =>
      have := ih ys
      simp only [pendingSize, List.zip_cons_cons, List.cons.sizeOf_spec] at this ⊢
      omega

-- Whether all pairs that are left are equal, given the pairs of objects looked at so far, which are taken to
-- be equal.
def Heap.allEqual (h : Heap) (seen : List (Ref × Ref)) : List (Value × Value) → Bool
  | [] => true
  | (x, y) :: rest =>
    match x, y with
    | .seq xs, .seq ys => xs.length == ys.length && h.allEqual seen (xs.zip ys ++ rest)
    | .object a, .object b =>
      if a = b ∨ (a, b) ∈ seen then h.allEqual seen rest
      else
        match _hp : h.counterparts a b with
        | some pairs => h.allEqual ((a, b) :: seen) (pairs ++ rest)
        | none => false
    | x, y => x.agrees y && h.allEqual seen rest
termination_by todo => (h.unseen seen, pendingSize todo)
decreasing_by
  · apply Prod.Lex.right
    have := pendingSize_zip_le xs ys
    rw [pendingSize_append]
    simp only [pendingSize, Value.seq.sizeOf_spec] at this ⊢
    omega
  · apply Prod.Lex.right
    simp only [pendingSize, Value.object.sizeOf_spec]
    omega
  · rename_i hab
    rcases h.counterparts_eq_nil_or_lt _hp with rfl | ⟨ha, hb⟩
    · apply Prod.Lex.right' _ (h.unseen_cons_le _ _)
      simp only [pendingSize, List.nil_append, Value.object.sizeOf_spec]
      omega
    · exact Prod.Lex.left _ _ (h.unseen_cons_lt ha hb fun hmem => hab (.inr hmem))
  · apply Prod.Lex.right
    have := x.sizeOf_pos
    simp only [pendingSize]
    omega

def Value.equals (h : Heap) (a b : Value) : Bool := h.allEqual [] [(a, b)]

end Verdict
