import Verdict.Comparison.Dispatch

namespace Verdict

variable {cs : List Char} {s : String} {limit kept : Nat}

theorem truncateChars_of_length_le (hfits : cs.length ≤ limit) : truncateChars limit cs = cs := by
  rw [truncateChars, if_pos hfits]

-- The same equation whether the ellipsis fits or not: a limit below its length keeps nothing of the text.
theorem truncateChars_of_lt (hlong : limit < cs.length) :
    truncateChars limit cs = cs.take (limit - ellipsis.length) ++ ellipsis.take limit := by
  rw [truncateChars, if_neg (Nat.not_le.2 hlong)]
  split
  · rename_i hsmall
    rw [Nat.sub_eq_zero_of_le (Nat.le_of_lt hsmall), List.take_zero, List.nil_append]
  · rename_i hroom
    rw [List.take_of_length_le (Nat.not_lt.1 hroom)]

theorem length_truncateChars (limit : Nat) (cs : List Char) :
    (truncateChars limit cs).length = min cs.length limit := by
  rcases Nat.lt_or_ge limit cs.length with hlong | hfits
  · rw [truncateChars_of_lt hlong, List.length_append, List.length_take, List.length_take]
    omega
  · rw [truncateChars_of_length_le hfits, Nat.min_eq_left hfits]

-- What stands in front of the ellipsis is as it was.
theorem take_truncateChars (cs : List Char) (hkept : kept ≤ limit - ellipsis.length) :
    (truncateChars limit cs).take kept = cs.take kept := by
  rcases Nat.lt_or_ge limit cs.length with hlong | hfits
  · have hroom : kept ≤ (cs.take (limit - ellipsis.length)).length := by
      rw [List.length_take]
      omega
    rw [truncateChars_of_lt hlong, List.take_append_of_le_length hroom, List.take_take, Nat.min_eq_left hkept]
  · rw [truncateChars_of_length_le hfits]

theorem truncateChars_truncateChars (m n : Nat) (cs : List Char) :
    truncateChars n (truncateChars m cs) = truncateChars (min m n) cs := by
  have hlength := length_truncateChars m cs
  rcases Nat.lt_or_ge n m with hsmaller | hlarger
  · rw [Nat.min_eq_right (Nat.le_of_lt hsmaller)]
    rcases Nat.lt_or_ge n cs.length with hlong | hfits
    · -- what the second cut keeps ends before the ellipsis of the first one
      have hlong' : n < (truncateChars m cs).length := by omega
      have hkept : n - ellipsis.length ≤ m - ellipsis.length := by omega
      rw [truncateChars_of_lt hlong, truncateChars_of_lt hlong', take_truncateChars cs hkept]
    · have hfirst : truncateChars m cs = cs := truncateChars_of_length_le (by omega)
      rw [hfirst]
  · have hfits : (truncateChars m cs).length ≤ n := by omega
    rw [Nat.min_eq_left hlarger, truncateChars_of_length_le hfits]

@[simp] theorem toList_truncate (s : String) (limit : Nat) :
    (truncate s limit).toList = truncateChars limit s.toList := by
  rw [truncate, String.toList_ofList]

theorem truncate_of_length_le (hfit : s.length ≤ limit) : truncate s limit = s := by
  apply String.toList_inj.1
  rw [toList_truncate, truncateChars_of_length_le (by rwa [String.length_toList])]

@[simp] theorem length_truncate (s : String) (limit : Nat) : (truncate s limit).length = min s.length limit := by
  rw [← String.length_toList, toList_truncate, length_truncateChars, String.length_toList]

theorem truncate_eq_self_iff : truncate s limit = s ↔ s.length ≤ limit := by
  constructor
  · intro hself
    have hlength := length_truncate s limit
    rw [hself] at hlength
    omega
  · exact truncate_of_length_le

theorem ellipsis_suffix_truncate (hlong : limit < s.length) :
    ellipsis.take limit <:+ (truncate s limit).toList := by
  rw [toList_truncate, truncateChars_of_lt (by rwa [String.length_toList])]
  exact List.suffix_append _ _

@[simp] theorem truncate_truncate (s : String) (m n : Nat) : truncate (truncate s m) n = truncate s (min m n) := by
  apply String.toList_inj.1
  rw [toList_truncate, toList_truncate, toList_truncate, truncateChars_truncateChars]

-- Operands that were cut before are compared as they would be under the smaller limit.
theorem compareTexts_truncated (config : Config) (m n : Nat) (left right : Option String) :
    compareTexts { config with maxTextLength := n } (left.map (truncate · m)) (right.map (truncate · m)) =
      compareTexts { config with maxTextLength := min m n } left right := by
  simp only [compareTexts, Option.map_map, Function.comp_def, truncate_truncate]

-- A cut text has as many characters as the text, or as the limit if that is less. It is the text itself exactly if the
-- text fits, and else starts like it and ends in the ellipsis, or in as much of one as fits. Two cuts are one cut to the
-- smaller limit, for the texts of a comparison too.
theorem truncations_compose (s : String) (m n : Nat) :
    (truncate s m).length = min s.length m ∧
      (truncate s m = s ↔ s.length ≤ m) ∧
      (truncate s m).toList.take (m - ellipsis.length) = s.toList.take (m - ellipsis.length) ∧
      (m < s.length → ellipsis.take m <:+ (truncate s m).toList) ∧
      truncate (truncate s m) n = truncate s (min m n) ∧
      ∀ (config : Config) (left right : Option String),
        compareTexts { config with maxTextLength := n } (left.map (truncate · m)) (right.map (truncate · m)) =
          compareTexts { config with maxTextLength := min m n } left right := by
  refine ⟨length_truncate s m, truncate_eq_self_iff, ?_, ellipsis_suffix_truncate, truncate_truncate s m n,
    fun config => compareTexts_truncated config m n⟩
  rw [toList_truncate]
  exact take_truncateChars s.toList (Nat.le_refl _)

-- Seven characters of three bytes each, cut to six and then to four.
theorem two_cuts_of_seven_characters :
    6 < "日本語ですよね".length ∧ ellipsis.take 6 <:+ (truncate "日本語ですよね" 6).toList ∧
      truncate (truncate "日本語ですよね" 6) 4 = "日..." := by
  have hlong : 6 < "日本語ですよね".length := by decide
  obtain ⟨-, -, -, hends, hcompose, -⟩ := truncations_compose "日本語ですよね" 6 4
  refine ⟨hlong, hends hlong, hcompose.trans ?_⟩
  decide

end Verdict
