import Verdict.Comparison.Report
import Verdict.Config
import Verdict.Value.Display
import Verdict.Value.Equality

namespace Verdict

-- A place that is still to be looked at: both sides have it, or one of them does.
inductive Place where
  | both (path : String) (left right : Value)
  | leftOnly (path : String) (left : Value)
  | rightOnly (path : String) (right : Value)

def fieldPath (path name : String) : String := if path = "" then name else path ++ "." ++ name

def itemPath (path : String) (index : Nat) : String := path ++ "[" ++ toString index ++ "]"

-- The places of two sequences from a given index on.
def itemPlaces (path : String) : Nat → List Value → List Value → List Place
  | _, [], [] => []
  | i, x :: xs, [] => .leftOnly (itemPath path i) x :: itemPlaces path (i + 1) xs []
  | i, [], y :: ys => .rightOnly (itemPath path i) y :: itemPlaces path (i + 1) [] ys
  | i, x :: xs, y :: ys => .both (itemPath path i) x y :: itemPlaces path (i + 1) xs ys

-- The places of two objects: the fields of the left one, then those that only the right one has.
def fieldPlaces (path : String) (left right : List (String × Value)) : List Place :=
  (left.map fun f =>
    match right.lookup f.1 with
    | some v => .both (fieldPath path f.1) f.2 v
    | none => .leftOnly (fieldPath path f.1) f.2) ++
    (right.filter fun f => !left.any fun g => g.1 == f.1).map fun f =>
      .rightOnly (fieldPath path f.1) f.2

def missingText : String := "<missing>"

def rootPath : String := "(root)"

def Difference.atPath (path left right : String) : Difference :=
  ⟨if path = "" then rootPath else path, left, right⟩

-- The size of what both sides have at a place.
noncomputable def Place.size : Place → Nat
  | .both _ l r => sizeOf l + sizeOf r
  | .leftOnly .. | .rightOnly .. => 0

noncomputable def placesSize : List Place → Nat
  | [] => 0
  | p :: rest => p.size + placesSize rest

private theorem placesSize_append (xs ys : List Place) :
    placesSize (xs ++ ys) = placesSize xs + placesSize ys := by
  induction xs with
  | nil => simp [placesSize]
  | cons x xs ih =>
    simp only [List.cons_append, placesSize, ih]
    omega

private theorem placesSize_itemPlaces_le (path : String) (i : Nat) (xs ys : List Value) :
    placesSize (itemPlaces path i xs ys) ≤ sizeOf xs + sizeOf ys := by
  induction xs generalizing i ys with
  | nil =>
    induction ys generalizing i with
    | nil => simp [itemPlaces, placesSize]
    | cons y ys ih =>
      have := ih (i + 1)
      simp only [itemPlaces, placesSize, Place.size, List.cons.sizeOf_spec] at this ⊢
      omega
  | cons x xs ih =>
    cases ys with
    | nil =>
      have := ih (i + 1) []
      simp only [itemPlaces, placesSize, Place.size, List.cons.sizeOf_spec] at this ⊢
      omega
    | cons y ys =>
      have := ih (i + 1) ys
      simp only [itemPlaces, placesSize, Place.size, List.cons.sizeOf_spec] at this ⊢
      omega

-- Objects of which one has no fields share no place.
private theorem placesSize_fieldPlaces_eq_zero (path : String) {left right : List (String × Value)}
    (h : left = [] ∨ right = []) : placesSize (fieldPlaces path left right) = 0 := by
  rcases h with rfl | rfl
  · induction right with
    | nil => simp [fieldPlaces, placesSize]
    | cons f fs ih => simpa [fieldPlaces, placesSize, Place.size] using ih
  · induction left with
    | nil => simp [fieldPlaces, placesSize]
    | cons f fs ih => simpa [fieldPlaces, placesSize, Place.size] using ih

-- A pair of objects that is not in the heap has no shared places.
private theorem fields_eq_nil_of_not_lt {h : Heap} {r : Ref} (hr : ¬ r < h.size) :
    h.fields r = [] := by
  cases hf : h.fields r with
  | nil => rfl
  | cons f fs => exact absurd (Heap.lt_size_of_mem_fields (f := f) (by simp [hf])) hr

-- The differences at the places left, given the pairs of objects walked so far, which are not walked again.
def Heap.differences (h : Heap) (limit : Nat) (seen : List (Ref × Ref)) :
    List Place → List Difference
  | [] => []
  | .leftOnly path l :: rest =>
    .atPath path (l.display h limit) missingText :: h.differences limit seen rest
  | .rightOnly path r :: rest =>
    .atPath path missingText (r.display h limit) :: h.differences limit seen rest
  | .both path left right :: rest =>
    match left, right with
    | .object a, .object b =>
      if a = b ∨ (a, b) ∈ seen then h.differences limit seen rest
      else
        h.differences limit ((a, b) :: seen) (fieldPlaces path (h.fields a) (h.fields b) ++ rest)
    | .seq xs, .seq ys => h.differences limit seen (itemPlaces path 0 xs ys ++ rest)
    | left, right =>
      if left.equals h right then h.differences limit seen rest
      else .atPath path (left.display h limit) (right.display h limit) :: h.differences limit seen rest
termination_by todo => (h.unseen seen, placesSize todo, todo.length)
decreasing_by
  · exact Prod.Lex.right _ (by simp [placesSize, Place.size, Prod.lex_def])
  · exact Prod.Lex.right _ (by simp [placesSize, Place.size, Prod.lex_def])
  · apply Prod.Lex.right
    apply Prod.Lex.left
    simp only [placesSize, Place.size, Value.object.sizeOf_spec]
    omega
  · rename_i hab
    by_cases hin : a < h.size ∧ b < h.size
    · exact Prod.Lex.left _ _ (h.unseen_cons_lt hin.1 hin.2 fun hmem => hab (.inr hmem))
    · apply Prod.Lex.right' _ (h.unseen_cons_le _ _)
      apply Prod.Lex.left
      have hnil : h.fields a = [] ∨ h.fields b = [] := by
        by_cases ha : a < h.size
        · exact .inr (fields_eq_nil_of_not_lt fun hb => hin ⟨ha, hb⟩)
        · exact .inl (fields_eq_nil_of_not_lt ha)
      rw [placesSize_append, placesSize_fieldPlaces_eq_zero path hnil]
      simp only [placesSize, Place.size, Value.object.sizeOf_spec]
      omega
  · apply Prod.Lex.right
    apply Prod.Lex.left
    have := placesSize_itemPlaces_le path 0 xs ys
    rw [placesSize_append]
    simp only [placesSize, Place.size, Value.seq.sizeOf_spec] at this ⊢
    omega
  · apply Prod.Lex.right
    apply Prod.Lex.left
    have := left.sizeOf_pos
    simp only [placesSize, Place.size]
    omega
  · apply Prod.Lex.right
    apply Prod.Lex.left
    have := left.sizeOf_pos
    simp only [placesSize, Place.size]
    omega

-- The report lists the first differences and counts the others.
def compareObjects (h : Heap) (config : Config) (left right : Value) : Comparison :=
  let all := h.differences config.previewItems [] [.both "" left right]
  let listed := all.take config.maxDifferences
  .object (left.display h config.previewItems) (right.display h config.previewItems) listed
    (all.length - listed.length)

end Verdict
