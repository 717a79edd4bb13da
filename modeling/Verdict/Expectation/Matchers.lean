import Verdict.Comparison.Dispatch
import Verdict.Expectation.Basic
import Verdict.Pattern.Matching
import Verdict.Report.ComparisonLines

namespace Verdict

namespace Expectation

variable {σ : Type}

-- What was asked of a text, and the text.
def textLines (asked wanted actual : String) : List Line :=
  [.top (asked ++ " " ++ Quoted.text wanted), .top ("actual: " ++ Quoted.text actual)]

def containsText (actual needle : String) : Expectation σ := fun subject =>
  return .decided subject (occursIn needle.toList actual.toList)
    (textLines "expected to contain" needle actual)

def matchesPattern (actual pattern : String) : Expectation σ := fun subject =>
  return .decided subject (patternMatches pattern actual)
    (textLines "expected to match pattern" pattern actual)

-- Different values are explained by a comparison that knows no declared types.
def equals (h : Heap) (config : Config) (actual expected : Value) : Expectation σ := fun subject =>
  return .decided subject (actual.equals h expected)
    (compareOperands h config (.untyped actual) (.untyped expected)).reportLines

end Expectation

end Verdict
