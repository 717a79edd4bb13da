import Verdict.Pattern.Glob
import Verdict.Pattern.Regex.Reading

namespace Verdict

-- A pattern is tried as wildcards for the whole text, then as a regular expression for any part of it,
-- then as the text itself. One that is invalid in a kind matches nothing in it.
def patternMatches (pattern actual : String) : Bool :=
  (Glob.ofText? pattern).any (Glob.accepts · actual) ||
    (Regex.ofText? pattern).any (·.occursIn actual) || actual == pattern

end Verdict
