namespace Verdict

-- What stands where something was left out.
def ellipsis : List Char := ['.', '.', '.']

-- At most `limit` characters. A text that is too long ends in an ellipsis, or in as much of one as
-- fits.
def truncateChars (limit : Nat) (cs : List Char) : List Char :=
  if cs.length ≤ limit then cs
  else if limit < ellipsis.length then ellipsis.take limit
  else cs.take (limit - ellipsis.length) ++ ellipsis

def truncate (s : String) (limit : Nat) : String :=
  String.ofList (truncateChars limit s.toList)

-- A line that ended in a line feed, without a carriage return before it.
def dropReturn (line : List Char) : List Char :=
  if line.getLast? = some '\r' then line.dropLast else line

-- The lines of a text, each without its line feed or return and line feed. Text behind the last
-- line feed is a line if there is any, and keeps a final return.
def splitLines (cs : List Char) : List (List Char) :=
  match _h : cs.dropWhile (· ≠ '\n') with
  | [] => if cs = [] then [] else [cs]
  | _ :: rest => dropReturn (cs.takeWhile (· ≠ '\n')) :: splitLines rest
termination_by cs.length
decreasing_by
  have := (List.dropWhile_suffix (· ≠ '\n') (l := cs)).length_le
  rw [_h] at this
  simp at this
  omega

def linesOf (s : String) : List String :=
  (splitLines s.toList).map String.ofList

-- Whether `needle` stands somewhere in the text.
def occursIn (needle : List Char) : List Char → Bool
  | [] => needle.isEmpty
  | c :: rest => needle.isPrefixOf (c :: rest) || occursIn needle rest

theorem occursIn_iff {needle text : List Char} : occursIn needle text = true ↔ needle <:+: text := by
  induction text with
  | nil => simp [occursIn]
  | cons c rest ih =>
    rw [occursIn, Bool.or_eq_true, ih, List.isPrefixOf_iff_prefix, List.infix_cons_iff]

end Verdict
