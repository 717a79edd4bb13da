import Verdict.Diff.Edit
import Verdict.Text.Cut

namespace Verdict

inductive Change where
  | kept
  | removed
  | added
  deriving DecidableEq, Repr, Inhabited

-- A stretch of characters with one fate.
structure Segment where
  change : Change
  text : String
  deriving DecidableEq, Repr, Inhabited

-- A line with its fate.
structure LineChange where
  change : Change
  text : String
  deriving DecidableEq, Repr, Inhabited

-- What a step does, and to which item.
def Edit.item? {α : Type} (left right : Array α) : Edit → Option (Change × α)
  | .equal i _ => left[i]?.map (Change.kept, ·)
  | .delete i => left[i]?.map (Change.removed, ·)
  | .insert j => right[j]?.map (Change.added, ·)

-- The items of both lists, in the order of the script.
def markedItems {α : Type} [BEq α] (left right : List α) : List (Change × α) :=
  (edits (· == ·) left right).filterMap (·.item? left.toArray right.toArray)

-- Neighbours with one fate put together.
def joinRuns : List (Change × Char) → List (Change × List Char)
  | [] => []
  | (change, c) :: rest =>
    match joinRuns rest with
    | (next, cs) :: runs =>
      if change = next then (next, c :: cs) :: runs else (change, [c]) :: (next, cs) :: runs
    | [] => [(change, [c])]

def charDiff (left right : String) : List Segment :=
  (joinRuns (markedItems left.toList right.toList)).map fun r => ⟨r.1, String.ofList r.2⟩

def lineDiff (left right : String) : List LineChange :=
  (markedItems (linesOf left) (linesOf right)).map fun m => ⟨m.1, m.2⟩

-- What stayed as it is, what went as `[-…]`, what came as `[+…]`.
def Segment.inline (s : Segment) : String :=
  match s.change with
  | .kept => s.text
  | .removed => "[-" ++ s.text ++ "]"
  | .added => "[+" ++ s.text ++ "]"

def inlineText (segments : List Segment) : String := String.join (segments.map (·.inline))

-- The two characters in front of a line of a diff.
def Change.mark : Change → String
  | .kept => "  "
  | .removed => "- "
  | .added => "+ "

def LineChange.marked (l : LineChange) : String := l.change.mark ++ l.text

end Verdict
