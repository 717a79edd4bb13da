import Verdict.Comparison.Report
import Verdict.Callback
import Verdict.Config
import Verdict.Value.Display
import Verdict.Value.Equality

namespace Verdict

-- An equality of items that a caller brings; it may break off.
abbrev ItemEquality := Value → Value → Callback Bool

-- The part of two equally long lists that is diffed, and whether differing items lie behind it.
structure DiffWindow where
  first : Nat
  last : Nat
  cut : Bool
  deriving DecidableEq, Repr

def DiffWindow.of (config : Config) (length before after : Nat) : DiffWindow :=
  let changed := length - before - after
  let kept := min changed (max 1 config.maxDiffLines)
  ⟨before - config.contextLines, before + kept, kept < changed⟩

def DiffWindow.part {α : Type} (w : DiffWindow) (items : List α) : List α :=
  (items.take w.last).drop w.first

-- The window between the common beginning and the common end.
def diffWindow {ε : Type} (config : Config) (eq : Value → Value → Except ε Bool)
    (left right : List Value) : Except ε DiffWindow := do
  let before ← askPrefix eq left right
  let after ← askPrefix eq (left.drop before).reverse (right.drop before).reverse
  return .of config left.length before after

-- The lines of a diff: every change, and up to `limit` unchanged lines in front of it, `held` being
-- those that wait for a change.
def changedLines (limit : Nat) (held : List String) : List (Change × String) → List String
  | [] => []
  | (.kept, line) :: rest =>
    let held := held ++ [Change.kept.mark ++ line]
    changedLines limit (held.drop (held.length - limit)) rest
  | (change, line) :: rest => held ++ (change.mark ++ line) :: changedLines limit [] rest

-- The lines for a script over two lists of items.
def scriptLines (h : Heap) (config : Config) (left right : List Value) (script : List Edit) :
    List String :=
  changedLines config.contextLines [] ((script.filterMap (·.item? left.toArray right.toArray)).map
    fun m => (m.1, m.2.display h config.previewItems))

-- The queue of the lines that wait for a change is made before anything waits in it, with room for one line more than
-- may be shown. A line takes 24 bytes there, and nothing can take 2 ^ 63 bytes or more.
def Config.HoldsContext (config : Config) : Prop := 24 * (config.contextLines + 1) < 0x8000000000000000

instance (config : Config) : Decidable config.HoldsContext :=
  inferInstanceAs (Decidable (24 * (config.contextLines + 1) < 0x8000000000000000))

def capacityOverflow : Fault := ⟨"capacity overflow"⟩

-- An equality of items that breaks off leaves the report without a diff. A context that cannot be held breaks the
-- report itself off.
def compareSequences (h : Heap) (config : Config) (comparer : Option ItemEquality)
    (left right : List Value) : Callback Comparison :=
  let custom := comparer.isSome
  if left.length ≠ right.length then
    .ok (.sequence (some ⟨left.length, right.length, previewList h config.previewItems left,
      previewList h config.previewItems right⟩) none custom false)
  else
    let eq := comparer.getD fun a b => .ok (a.equals h b)
    let outcome := do
      let window ← diffWindow config eq left right
      let (left, right) := (window.part left, window.part right)
      return (window, scriptLines h config left right (← editsAsking eq left right))
    match outcome with
    | .ok (window, lines) =>
      if config.HoldsContext then
        .ok (.sequence none (some (lines.take config.maxDiffLines)) custom
          (window.cut || config.maxDiffLines < lines.length))
      else .error capacityOverflow
    | .error _ => .ok (.sequence none none custom false)

end Verdict
