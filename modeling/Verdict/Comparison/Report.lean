import Verdict.Diff.Text

namespace Verdict

-- The ways of comparing two operands.
inductive Strategy where
  | nullable
  | text
  | collection
  | object
  | plain
  deriving DecidableEq, Repr, Inhabited

-- The diff inside a comparison of texts; a missing text leaves nothing to diff.
inductive TextDiff where
  | absent
  | inline (segments : List Segment)
  | lines (changes : List LineChange)
  deriving DecidableEq, Repr, Inhabited

-- The first place at which two sequences differ.
structure Mismatch where
  index : Nat
  expected : String
  actual : String
  deriving DecidableEq, Repr, Inhabited

-- Which side of a pair of sequences has more items: the left has extra ones, or misses some.
inductive DeltaKind where
  | extra
  | missing
  deriving DecidableEq, Repr, Inhabited

structure LengthDelta where
  kind : DeltaKind
  items : String
  deriving DecidableEq, Repr, Inhabited

-- A place inside two objects at which they differ.
structure Difference where
  path : String
  left : String
  right : String
  deriving DecidableEq, Repr, Inhabited

structure LengthMismatch where
  expectedLength : Nat
  actualLength : Nat
  expectedPreview : String
  actualPreview : String
  deriving DecidableEq, Repr, Inhabited

inductive Comparison where
  | plain (left right : String)
  | nullable (left right : String)
  | text (left right : Option String) (diff : TextDiff)
  | collection (left right : String) (mismatch : Option Mismatch) (delta : Option LengthDelta)
  | object (left right : String) (differences : List Difference) (truncated : Nat)
  -- the lines are missing when the equality of items broke off
  | sequence (lengths : Option LengthMismatch) (lines : Option (List String)) (custom : Bool)
      (truncated : Bool)
  deriving DecidableEq, Repr, Inhabited

-- Sequence reports come from explicit tests of sequence equality only.
def Comparison.strategy : Comparison → Strategy
  | .plain .. => .plain
  | .nullable .. => .nullable
  | .text .. => .text
  | .collection .. => .collection
  | .object .. => .object
  | .sequence .. => .collection

end Verdict
