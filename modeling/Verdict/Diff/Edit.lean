namespace Verdict

-- A step of a script, by places in the left and in the right list.
inductive Edit where
  | equal (i j : Nat)
  | delete (i : Nat)
  | insert (j : Nat)
  deriving DecidableEq, Repr, Inhabited

namespace Edit

-- The same step, with both lists starting so many places later.
def shift (n : Nat) : Edit → Edit
  | .equal i j => .equal (n + i) (n + j)
  | .delete i => .delete (n + i)
  | .insert j => .insert (n + j)

def isChange : Edit → Bool
  | .equal _ _ => false
  | .delete _ | .insert _ => true

end Edit

-- How many places the two lists agree on from the start.
def commonPrefix {α β : Type} (eq : α → β → Bool) (left : List α) (right : List β) : Nat :=
  ((left.zip right).takeWhile fun p => eq p.1 p.2).length

section

variable {α β : Type} {eq : α → β → Bool}

@[simp] theorem commonPrefix_nil_left (right : List β) : commonPrefix eq [] right = 0 := rfl

@[simp] theorem commonPrefix_nil_right (left : List α) : commonPrefix eq left [] = 0 := by
  rw [commonPrefix, List.zip_nil_right, List.takeWhile_nil, List.length_nil]

theorem commonPrefix_cons_of_eq {x : α} {y : β} (h : eq x y = true) (xs : List α) (ys : List β) :
    commonPrefix eq (x :: xs) (y :: ys) = commonPrefix eq xs ys + 1 := by
  simp [commonPrefix, h]

theorem commonPrefix_cons_of_ne {x : α} {y : β} (h : ¬eq x y = true) (xs : List α) (ys : List β) :
    commonPrefix eq (x :: xs) (y :: ys) = 0 := by
  simp [commonPrefix, h]

end

-- How many places the two lists agree on from the end.
def commonSuffix {α β : Type} (eq : α → β → Bool) (left : List α) (right : List β) : Nat :=
  commonPrefix eq left.reverse right.reverse

-- The row of the table for a list that starts with `x`, from the row `below` for its tail: at each
-- place the length of a longest common subsequence with the rest of the right list.
def commonRow {α β : Type} (eq : α → β → Bool) (x : α) : List β → List Nat → List Nat
  | [], _ => [0]
  | y :: ys, below =>
    let row := commonRow eq x ys below.tail
    (if eq x y then below.tail.headD 0 + 1 else max (below.headD 0) (row.headD 0)) :: row

-- The rows for the whole left list and for each of its tails, the longest first.
def commonTable {α β : Type} (eq : α → β → Bool) (right : List β) : List α → List (Array Nat)
  | [] => [Array.replicate (right.length + 1) 0]
  | x :: xs =>
    let rows := commonTable eq right xs
    (commonRow eq x right (rows.headD #[]).toList).toArray :: rows

-- Follows the table from places `i` and `j`, where the rest of the lists and of the rows start.
def followTable {α β : Type} (eq : α → β → Bool) :
    List (Array Nat) → Nat → Nat → List α → List β → List Edit
  | _, _, _, [], [] => []
  | rows, i, j, x :: xs, [] => .delete i :: followTable eq rows.tail (i + 1) j xs []
  | rows, i, j, [], y :: ys => .insert j :: followTable eq rows i (j + 1) [] ys
  | rows, i, j, x :: xs, y :: ys =>
    if eq x y then .equal i j :: followTable eq rows.tail (i + 1) (j + 1) xs ys
    else if (rows.tail.headD #[]).getD j 0 ≥ (rows.headD #[]).getD (j + 1) 0 then
      .delete i :: followTable eq rows.tail (i + 1) j xs (y :: ys)
    else .insert j :: followTable eq rows i (j + 1) (x :: xs) ys
termination_by _ _ _ left right => left.length + right.length

-- The lists without their common beginning and, of the rest, their common end.
structure Changed (α β : Type) where
  before : Nat
  after : Nat
  left : List α
  right : List β

def changedPart {α β : Type} (eq : α → β → Bool) (left : List α) (right : List β) :
    Changed α β :=
  let before := commonPrefix eq left right
  let left := left.drop before
  let right := right.drop before
  let after := commonSuffix eq left right
  ⟨before, after, left.take (left.length - after), right.take (right.length - after)⟩

-- The script that turns the left list into the right one. The common beginning and end are set aside before the
-- table is built.
def edits {α β : Type} (eq : α → β → Bool) (left : List α) (right : List β) : List Edit :=
  let part := changedPart eq left right
  (List.range part.before).map (fun k => .equal k k) ++
    (followTable eq (commonTable eq part.right part.left) 0 0 part.left part.right).map
      (·.shift part.before) ++
    (List.range part.after).map fun k =>
      .equal (left.length - part.after + k) (right.length - part.after + k)

-- Asks along two lists until the answer is no, and counts the yeses.
def askPrefix {α β ε : Type} (ask : α → β → Except ε Bool) : List α → List β → Except ε Nat
  | x :: xs, y :: ys => do
    if ← ask x y then return (← askPrefix ask xs ys) + 1
    return 0
  | _, _ => return 0

theorem askPrefix_cons {α β ε : Type} (ask : α → β → Except ε Bool) (x : α) (xs : List α) (y : β)
    (ys : List β) :
    askPrefix ask (x :: xs) (y :: ys) = match ask x y with
      | .error f => .error f
      | .ok false => .ok 0
      | .ok true => (askPrefix ask xs ys).map (· + 1) := by
  rw [askPrefix]
  cases ask x y with
  | error f => rfl
  | ok b => cases b <;> rfl

-- The script under a relation that may fail to answer: it fails if any answer that is needed does,
-- along the common beginning, the common end, or in the table between them.
def editsAsking {α β ε : Type} (ask : α → β → Except ε Bool) (left : List α) (right : List β) :
    Except ε (List Edit) := do
  let eq := fun x y => match ask x y with | .ok b => b | .error _ => false
  let before ← askPrefix ask left right
  let _ ← askPrefix ask (left.drop before).reverse (right.drop before).reverse
  let part := changedPart eq left right
  part.left.forM fun x => part.right.forM fun y => discard (ask x y)
  return edits eq left right

end Verdict
